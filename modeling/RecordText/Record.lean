import RecordText.Text.Basic

namespace RecordText

structure Record where
  fields : List (Text × Text)
  deriving DecidableEq, Repr

namespace Record

def empty : Record := .mk []

def get? (r : Record) (name : Text) : Option Text := r.fields.lookup name

def set (r : Record) (name value : Text) : Record :=
  .mk ((name, value) :: r.fields.filter fun (n, _) => n != name)

def setAll (r : Record) (fields : List (Text × Text)) : Record :=
  fields.foldl (fun r (name, value) => r.set name value) r

def ofList (fields : List (Text × Text)) : Record := empty.setAll fields

def names (r : Record) : List Text := r.fields.map (·.1)

def has (r : Record) (name : Text) : Bool := (r.get? name).isSome

@[simp] theorem get?_empty (name : Text) : empty.get? name = none := rfl

@[simp] theorem get?_set (r : Record) (name value n : Text) :
    (r.set name value).get? n = if n = name then some value else r.get? n := by
  have other (h : n ≠ name) (l : List (Text × Text)) :
      (l.filter fun (m, _) => m != name).lookup n = l.lookup n := by
    induction l with
    | nil => rfl
    | cons x l ih =>
      obtain ⟨m, v⟩ := x
      by_cases hm : m = name <;> simp_all [Text.lookup_cons]
  by_cases h : n = name <;> simp [set, get?, Text.lookup_cons, h, other]

theorem get?_setAll {name : Text} {fields : List (Text × Text)} (h : name ∉ fields.map Prod.fst)
    (r : Record) : (r.setAll fields).get? name = r.get? name :=
  Text.foldl_of_notMem (fun r name value n hn => by rw [get?_set, if_neg hn]) h r

end Record

end RecordText
