import DenseBench.Kernel.Correlation
import DenseBench.Proofs.Dense.Elements
import DenseBench.Proofs.Dense.Entries
import DenseBench.Proofs.Success

/-!
# Normalised columns and their products

Every column of the data is normalised by its own mean and deviation, which are formed before any
element changes, with the operations in the order in which the loops make them.  The correlations
are then written in pairs, above and below the diagonal, one row and column after the other; the
last element of the diagonal is written on its own.  So nothing of the old correlations is left.
-/

namespace DenseBench
namespace Kernel
namespace Correlation

open Success

variable {α : Type}

section Column

variable [Zero α] [Add α] [Div α]

/-- The mean of the first `n` elements of a column. -/
def mean (count : α) (n : Nat) (x : Nat → α) : α :=
  accumulate (· + ·) 0 n 0 x / count

variable [Sub α] [Mul α]

/-- The standard deviation of a column. -/
def deviation (sqrt : α → α) (count : α) (n : Nat) (x : Nat → α) : α :=
  let center := mean count n x
  sqrt (accumulate (· + ·) 0 n 0 (fun k => (x k - center) * (x k - center)) / count)

variable [One α] [LE α] [DecidableLE α]

/-- The deviation by which a column is divided. -/
def divisor (sqrt : α → α) (eps count : α) (n : Nat) (x : Nat → α) : α :=
  if deviation sqrt count n x ≤ eps then 1 else deviation sqrt count n x

/-- Element `k` of a normalised column. -/
def normalised (sqrt : α → α) (eps count : α) (n : Nat) (x : Nat → α) (k : Nat) : α :=
  (x k - mean count n x) / (sqrt count * divisor sqrt eps count n x)

/-- Data all of whose columns are normalised. -/
def normalisedData (sqrt : α → α) (eps count : α) (n : Nat) (data : Nat → Nat → α) (k j : Nat) :
    α :=
  normalised sqrt eps count n (data · j) k

end Column

section Stages

variable {n m : Nat} {data : Nat → Nat → α}

theorem columnSum_ofFn [Zero α] [Add α] {j : Nat} (col : j < m) (term : α → α) :
    columnSum (.ofFn n m data) j term =
      .ok (accumulate (· + ·) 0 n 0 fun k => term (data k j)) := by
  simp only [columnSum, Mat.rows_ofFn]
  refine sweep_accumulate (fun sum => sum) 0 (Nat.zero_le n) fun k sum _ row => ?_
  rw [Mat.read_of_lt row col]
  rfl

theorem means_ofFn [Zero α] [Add α] [Div α] (count : α) :
    means count (.ofFn n m data) = .ok (.ofFn m fun j => mean count n (data · j)) := by
  simp only [means, Mat.cols_ofFn]
  refine Vec.tabulate_eq_ok fun j col => ?_
  rw [columnSum_ofFn col]
  rfl

theorem deviations_ofFn [Zero α] [One α] [Add α] [Sub α] [Mul α] [Div α] [LE α] [DecidableLE α]
    (sqrt : α → α) (eps count : α) :
    deviations sqrt eps count (.ofFn n m data) (.ofFn m fun j => mean count n (data · j)) =
      .ok (.ofFn m fun j => divisor sqrt eps count n (data · j)) := by
  simp only [deviations, Mat.cols_ofFn]
  refine Vec.tabulate_eq_ok fun j col => ?_
  rw [Vec.read_of_lt col, ok_bind, columnSum_ofFn col]
  rfl

theorem normalise_ofFn [Sub α] [Mul α] [Div α] (root : α) (mean deviation : Nat → α) :
    normalise root (.ofFn n m data) (.ofFn m mean) (.ofFn m deviation) =
      .ok (.ofFn n m fun k j => (data k j - mean j) / (root * deviation j)) := by
  simp only [normalise, Mat.rows_ofFn, Mat.cols_ofFn]
  refine (Mat.sweep_entries (fun k j => (data k j - mean j) / (root * deviation j)) ?_).trans
    (congrArg Except.ok Mat.ofFn_withRows)
  intro k j row col partly
  have current : partly k j = data k j :=
    (Mat.withRow_of_ne (.inr (Nat.le_refl j))).trans (Mat.withRows_of_le (.inl (Nat.le_refl k)))
  rw [Vec.read_of_lt col, ok_bind, Mat.modify_of_lt row col, ok_bind, Vec.read_of_lt col, ok_bind,
    Mat.modify_withEntry row col, current]

end Stages

section Products

variable {m i j : Nat} {corr values : Nat → Nat → α}

/-- The matrix `corr` with `values` in its first `m` rows and columns, as far as they are written:
everything in the rows and columns before `i`, and what comes before `j` in row and column `i`. -/
def framed (m : Nat) (corr values : Nat → Nat → α) (i j r c : Nat) : α :=
  if r < m ∧ c < m ∧ (min r c < i ∨ min r c = i ∧ max r c < j) then values r c else corr r c

theorem framed_zero : framed m corr values 0 0 = corr := by
  funext r c
  exact if_neg (by omega)

/-- The element of the diagonal comes first. -/
theorem withEntry_framed_self (inside : i < m) :
    Mat.withEntry (framed m corr values i i) i i (values i i) =
      framed m corr values i (i + 1) := by
  funext r c
  simp only [Mat.withEntry, framed]
  grind

/-- An element right of the diagonal is written together with its mirror image. -/
theorem withEntry_framed (upper : i < j) (inside : j < m) (mirrored : values i j = values j i) :
    Mat.withEntry (Mat.withEntry (framed m corr values i j) i j (values i j)) j i (values i j) =
      framed m corr values i (j + 1) := by
  funext r c
  simp only [Mat.withEntry, framed]
  grind

/-- A row and a column that are written to their ends are finished. -/
theorem framed_succ : framed m corr values i m = framed m corr values (i + 1) (i + 1) := by
  funext r c
  simp only [framed]
  grind

theorem framed_last : framed (m + 1) corr values m (m + 1) =
    Mat.withRows corr (m + 1) (m + 1) values := by
  funext r c
  simp only [framed, Mat.withRows]
  grind

variable [Zero α] [One α] [Add α] [Mul α]

/-- The sum of the products of two columns. -/
def product (n : Nat) (x y : Nat → α) : α :=
  accumulate (· + ·) 0 n 0 fun k => x k * y k

/-- The correlation of columns `i` and `j` of normalised data. -/
def correlated (n : Nat) (x : Nat → Nat → α) (i j : Nat) : α :=
  if i = j then 1 else product n (x · (min i j)) (x · (max i j))

theorem correlated_self {n : Nat} {x : Nat → Nat → α} : correlated n x i i = 1 :=
  if_pos rfl

theorem correlated_of_lt {n : Nat} {x : Nat → Nat → α} (upper : i < j) :
    correlated n x i j = product n (x · i) (x · j) := by
  rw [correlated, if_neg upper.ne, Nat.min_eq_left upper.le, Nat.max_eq_right upper.le]

theorem correlated_comm {n : Nat} {x : Nat → Nat → α} :
    correlated n x i j = correlated n x j i := by
  simp only [correlated, eq_comm, Nat.min_comm, Nat.max_comm]

/-- The correlations are stored in the first rows and columns of a matrix that may be larger. -/
theorem products_ofFn {n p q : Nat} (subtraction : Subtraction) (x corr : Nat → Nat → α)
    (rows : m ≤ p) (cols : m ≤ q) :
    products subtraction (.ofFn n m x) (.ofFn p q corr) =
      .ok (.ofFn p q (Mat.withRows corr m m (correlated n x))) := by
  cases m with
  | zero =>
      rw [Mat.withRows_zero]
      rfl
  | succ last =>
      simp only [products, Mat.rows_ofFn, Mat.cols_ofFn, Nat.add_one_ne_zero, if_false]
      rw [subtraction.exact (last + 1) 1 (Nat.le_add_left 1 last), ok_bind, Nat.add_sub_cancel]
      let stage (i j : Nat) : Mat α :=
        .ofFn p q (framed (last + 1) corr (correlated n x) i j)
      refine bind_eq_ok_iff.mpr ⟨stage last last, sweep_stages (fun i => stage i i)
        (Nat.zero_le last) (congrArg (Mat.ofFn p q) framed_zero) fun i _ before => ?_, ?_⟩
      · have diagonal : (stage i i).write i i 1 = .ok (stage i (i + 1)) := by
          rw [Mat.write_of_lt (by omega) (by omega), ← correlated_self (n := n) (x := x),
            withEntry_framed_self (by omega)]
        have finished : stage (i + 1) (i + 1) = stage i (last + 1) :=
          congrArg (Mat.ofFn p q) framed_succ.symm
        rw [diagonal, ok_bind, finished]
        refine sweep_stages (stage i) (by omega) rfl fun j after inside => ?_
        have upper : i < j := after
        -- both elements of the pair are the sum for the first of them
        refine bind_eq_ok_iff.mpr ⟨correlated n x i j, ?_, ?_⟩
        · rw [correlated_of_lt upper]
          refine sweep_accumulate (fun sum => sum) 0 (Nat.zero_le n) fun k sum _ row => ?_
          rw [Mat.read_of_lt row (by omega), Mat.read_of_lt row inside]
          rfl
        · rw [Mat.write_of_lt (by omega) (by omega), ok_bind,
            Mat.write_of_lt (by omega) (by omega), withEntry_framed upper inside correlated_comm]
      · rw [Mat.write_of_lt (by omega) (by omega), ← correlated_self (n := n) (x := x),
          withEntry_framed_self (by omega), framed_last]

end Products

section Kernel

variable [Zero α] [One α] [Add α] [Sub α] [Mul α] [Div α] [LE α] [DecidableLE α]

/-- The correlations may be stored in a matrix that is larger than they need. -/
theorem kernel_ofFn {n m p q : Nat} (sqrt : α → α) (eps count : α) (data corr : Nat → Nat → α)
    (subtraction : Subtraction) (rows : m ≤ p) (cols : m ≤ q) :
    kernel sqrt eps ⟨count, .ofFn n m data, .ofFn p q corr⟩ subtraction =
      .ok ⟨count, .ofFn n m (normalisedData sqrt eps count n data), .ofFn p q
        (Mat.withRows corr m m (correlated n (normalisedData sqrt eps count n data)))⟩ := by
  refine bind_eq_ok_iff.mpr ⟨_, means_ofFn count, ?_⟩
  refine bind_eq_ok_iff.mpr ⟨_, deviations_ofFn sqrt eps count, ?_⟩
  refine bind_eq_ok_iff.mpr ⟨_, normalise_ofFn (sqrt count) _ _, ?_⟩
  exact bind_eq_ok_iff.mpr ⟨_, products_ofFn subtraction _ corr rows cols, rfl⟩

/-- Each element of the data loses the mean of its column and is divided by the root of the count
times the deviation of its column, both formed from the original data; the correlations are ones on
the diagonal and elsewhere the sums of the products of two normalised columns, whatever was stored
before.  Without columns nothing changes.  The operations are made in this order, whatever laws they
obey. -/
theorem kernel_entries :
    (∀ (sqrt : α → α) (eps count : α) (n m : Nat) (data : Nat → Nat → α)
        (subtraction : Subtraction),
      ∃ normal : Nat → Nat → α,
        (∀ k j, normal k j =
          (data k j - mean count n (data · j)) /
            (sqrt count * divisor sqrt eps count n (data · j))) ∧
        ∀ corr : Nat → Nat → α,
          kernel sqrt eps ⟨count, .ofFn n m data, .ofFn m m corr⟩ subtraction =
            .ok ⟨count, .ofFn n m normal, .ofFn m m fun i j =>
              if i = j then 1 else
                accumulate (· + ·) 0 n 0 fun k => normal k (min i j) * normal k (max i j)⟩) ∧
    ∀ (sqrt : α → α) (eps count : α) (n : Nat) (data : Nat → Nat → α) (corr : Mat α)
      (subtraction : Subtraction),
      kernel sqrt eps ⟨count, .ofFn n 0 data, corr⟩ subtraction =
        .ok ⟨count, .ofFn n 0 data, corr⟩ := by
  constructor
  · intro sqrt eps count n m data subtraction
    refine ⟨normalisedData sqrt eps count n data, fun _ _ => rfl, fun corr => ?_⟩
    rw [kernel_ofFn sqrt eps count data corr subtraction le_rfl le_rfl, Mat.ofFn_withRows]
    rfl
  · intro sqrt eps count n data corr subtraction
    obtain ⟨entries, stored⟩ := Mat.exists_eq_ofFn corr
    have ended := kernel_ofFn (n := n) sqrt eps count data entries subtraction
      (Nat.zero_le corr.rows) (Nat.zero_le corr.cols)
    have empty : Mat.ofFn n 0 (normalisedData sqrt eps count n data) = Mat.ofFn n 0 data :=
      Mat.ofFn_congr fun _ j _ none => absurd none (Nat.not_lt_zero j)
    rwa [Mat.withRows_zero, ← stored, empty] at ended

end Kernel

end Correlation
end Kernel
end DenseBench
