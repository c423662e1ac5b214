/-!
# Outputs of a filter

A filter gives its outputs one after the other, and what comes later is not run before it is asked
for.

* `Outputs` : a list whose rest is run on demand;
* `Outputs.append`, `Outputs.flatMap` : one after the other, and a filter on every output;
* `Outputs.toList` : all outputs.
-/

namespace TypeSketch.Filter

/-- A list whose rest is run on demand. The last item may be known to be the last, so that what
follows from it need not wait for a rest that is empty. -/
inductive Outputs (α : Type) where
  | done
  | last (a : α)
  | next (a : α) (more : Unit → Outputs α)

namespace Outputs

variable {α β σ : Type}

instance : Inhabited (Outputs α) := ⟨.done⟩

/-- The items of a list. -/
def ofList : List α → Outputs α
  | [] => .done
  | [a] => .last a
  | a :: b :: as => .next a fun _ => ofList (b :: as)

/-- All outputs. -/
def toList : Outputs α → List α
  | .done => []
  | .last a => [a]
  | .next a more => a :: toList (more ())

/-- One after the other. -/
def append : Outputs α → (Unit → Outputs α) → Outputs α
  | .done, rest => rest ()
  | .last a, rest => .next a rest
  | .next a more, rest => .next a fun _ => append (more ()) rest

/-- A function of every output. -/
def map (f : α → β) : Outputs α → Outputs β
  | .done => .done
  | .last a => .last (f a)
  | .next a more => .next (f a) fun _ => map f (more ())

/-- The outputs for every output. -/
def flatMap (f : α → Outputs β) : Outputs α → Outputs β
  | .done => .done
  | .last a => f a
  | .next a more => append (f a) fun _ => flatMap f (more ())

/-- The outputs that a test keeps. -/
def filter (p : α → Bool) : Outputs α → Outputs α
  | .done => .done
  | .last a => if p a then .last a else .done
  | .next a more => if p a then .next a fun _ => filter p (more ()) else filter p (more ())

/-- The first outputs. -/
def take : Nat → Outputs α → Outputs α
  | 0, _ => .done
  | _, .done => .done
  | _, .last a => .last a
  | 1, .next a _ => .last a
  | n + 1, .next a more => .next a fun _ => take n (more ())

/-- Whether some output passes a test. -/
def any (p : α → Bool) : Outputs α → Bool
  | .done => false
  | .last a => p a
  | .next a more => p a || any p (more ())

@[simp] theorem toList_ofList (as : List α) : (ofList as).toList = as := by
  fun_induction ofList as with
  | case1 => rfl
  | case2 => rfl
  | case3 a b as ih => simp [toList, ih]

@[simp] theorem toList_append (xs : Outputs α) (ys : Unit → Outputs α) :
    (append xs ys).toList = xs.toList ++ (ys ()).toList := by
  induction xs with
  | done => rfl
  | last a => rfl
  | next a more ih => simp [append, toList, ih]

@[simp] theorem toList_flatMap (f : α → Outputs β) (xs : Outputs α) :
    (flatMap f xs).toList = xs.toList.flatMap fun a => (f a).toList := by
  induction xs with
  | done => rfl
  | last a => simp [flatMap, toList]
  | next a more ih => simp [flatMap, toList, ih]

end Outputs

end TypeSketch.Filter
