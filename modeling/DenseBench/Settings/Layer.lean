import DenseBench.Settings.Library
import DenseBench.Settings.Place

/-!
# Layers of settings

Each source of settings makes a layer: keys with settings.  Layers are laid over one another in
order.  A later scalar or list replaces what an earlier layer has put at the same place, and a
later table adds to it.
-/

namespace DenseBench
namespace Settings

/-- Lay a layer over settings. -/
def overlay (there : Setting) (layer : Layer Setting) : Setting :=
  layer.foldl (fun there (key, value) => (Place.ofKey key).put value there) there

/-- Lay layers over one another, the first one lowest. -/
def combine (layers : List (Layer Setting)) : Setting :=
  layers.foldl overlay (.table none [])

end Settings
end DenseBench
