import Mathlib.Data.List.Basic

/-!
# The Go values the model needs

Slices, whose `nil` and empty values differ in what `encoding/json` writes for them (`null` and
`[]`), and errors, which the code builds with `fmt.Errorf` and the CLI tests with `errors.Is`. A
slice built by `append` in a loop is the fold `appendAll`, and `toList_appendAll` and
`appendAll_mk` say what it holds: the loop's results in the order of its input, and never `nil` once
the slice was made with `make`.
-/

namespace Grype

/-- A Go slice: `nil`, or a slice value with its elements, possibly none. -/
inductive GoSlice (α : Type) where
  | nil
  | mk (elems : List α)
  deriving DecidableEq, Repr

namespace GoSlice

variable {α β : Type}

/-- The elements of a slice; `nil` has none. -/
def toList : GoSlice α → List α
  | nil => []
  | mk xs => xs

/-- `make([]T, 0)`: an empty slice that is not `nil`. -/
def make : GoSlice α := mk []

/-- `append(s, x)`: never `nil`. -/
def append (s : GoSlice α) (x : α) : GoSlice α := mk (s.toList ++ [x])

/-- The loop `for _, x := range xs { s = append(s, f(x)) }`. -/
def appendAll (f : β → α) (s : GoSlice α) (xs : List β) : GoSlice α :=
  xs.foldl (fun acc x => acc.append (f x)) s

@[simp] theorem toList_nil : (nil : GoSlice α).toList = [] := rfl

@[simp] theorem toList_mk (xs : List α) : (mk xs).toList = xs := rfl

@[simp] theorem toList_append (s : GoSlice α) (x : α) : (s.append x).toList = s.toList ++ [x] := rfl

@[simp] theorem appendAll_nil (f : β → α) (s : GoSlice α) : appendAll f s [] = s := rfl

/-- One turn of the loop appends the image of the head. -/
@[simp] theorem appendAll_cons (f : β → α) (s : GoSlice α) (x : β) (xs : List β) :
    appendAll f s (x :: xs) = appendAll f (mk (s.toList ++ [f x])) xs := rfl

/-- Once a slice is made, the loop keeps it a slice value and appends the images in order. -/
theorem appendAll_mk (f : β → α) (ys : List α) (xs : List β) :
    appendAll f (mk ys) xs = mk (ys ++ xs.map f) := by
  induction xs generalizing ys with
  | nil => simp
  | cons x xs ih => simp [ih]

/-- The loop appends the images of its input, in order, to what the slice held. -/
theorem toList_appendAll (f : β → α) (s : GoSlice α) (xs : List β) :
    (appendAll f s xs).toList = s.toList ++ xs.map f := by
  cases xs with
  | nil => simp
  | cons x xs => simp [appendAll_mk]

end GoSlice

/-- A Go `error` value, as the code builds it. `fmt.Errorf` keeps its format and its operands, which
are strings or `String()` texts in this code; a `%w` operand is the error it wraps. -/
inductive GoError where
  /-- A package-level error value such as `grypeerr.ErrDBUpgradeAvailable`, named. -/
  | sentinel (name : String)
  /-- An error from a collaborator outside the model, by its text. -/
  | text (msg : String)
  /-- `fmt.Errorf(format, args...)` with no error operand. -/
  | errorf (format : String) (args : List String)
  /-- `fmt.Errorf(format, err)` whose verb is `%+v`: it prints `err`, and does not wrap it. -/
  | errorfV (format : String) (err : GoError)
  /-- `fmt.Errorf(format, args..., err)` whose last verb is `%w`: it wraps `err`. -/
  | wrapf (format : String) (args : List String) (err : GoError)
  deriving DecidableEq, Repr

/-- `errors.Is(err, target)` for the sentinel named `target`: the sentinel is `err` or an error
that `err` wraps. Errors built by `fmt.Errorf` are fresh pointers, equal to no sentinel. -/
def GoError.is (target : String) : GoError → Bool
  | .sentinel name => name == target
  | .wrapf _ _ err => err.is target
  | _ => false

end Grype
