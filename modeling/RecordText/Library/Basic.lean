import RecordText.Text.Basic

namespace RecordText

abbrev Function := List Text → Text

structure Library where
  entries : List (Text × Function)

namespace Library

def empty : Library := .mk []

def get? (l : Library) (name : Text) : Option Function := l.entries.lookup name

def contains (l : Library) (name : Text) : Bool := (l.get? name).isSome

def names (l : Library) : List Text := l.entries.map (·.1)

def insertEntry (name : Text) (f : Function) : List (Text × Function) → List (Text × Function)
  | [] => [(name, f)]
  | (n, g) :: rest =>
    if name < n then (name, f) :: (n, g) :: rest
    else if name = n then (name, f) :: rest
    else (n, g) :: insertEntry name f rest

def insert (l : Library) (name : Text) (f : Function) : Library := .mk (insertEntry name f l.entries)

def insertAll (l : Library) (fs : List (Text × Function)) : Library :=
  fs.foldl (fun l (name, f) => l.insert name f) l

def ofList (fs : List (Text × Function)) : Library := empty.insertAll fs

@[simp] theorem get?_empty (name : Text) : empty.get? name = none := rfl

theorem lookup_insertEntry (name n : Text) (f : Function) (l : List (Text × Function)) :
    (insertEntry name f l).lookup n = if n = name then some f else l.lookup n := by
  induction l with
  | nil => simp [insertEntry, Text.lookup_cons]
  | cons x l ih => grind [insertEntry, Text.lookup_cons]

@[simp] theorem get?_insert (l : Library) (name n : Text) (f : Function) :
    (l.insert name f).get? n = if n = name then some f else l.get? n :=
  lookup_insertEntry name n f l.entries

theorem get?_insertAll {name : Text} {fs : List (Text × Function)} (h : name ∉ fs.map Prod.fst)
    (l : Library) : (l.insertAll fs).get? name = l.get? name :=
  Text.foldl_of_notMem (fun l name f n hn => by rw [get?_insert, if_neg hn]) h l

end Library

end RecordText
