import RecordText.CharSet.CategoryTable

namespace RecordText.CharSet

def category (names : List String) : CharSet := named categoryTable names

def letter : CharSet := category ["lu", "ll", "lt", "lm", "lo"]

def mark : CharSet := category ["mn", "mc", "me"]

def decimalDigit : CharSet := category ["nd"]

/-- The union of all categories in the table. Surrogates are not characters. -/
def assigned : CharSet := unions (categoryTable.map Entry.chars)

def categoryGroups : List (List String × List String) :=
  [(["l", "letter"], ["lu", "ll", "lt", "lm", "lo"]),
   (["lc", "casedletter"], ["lu", "ll", "lt"]),
   (["m", "mark", "combiningmark"], ["mn", "mc", "me"]),
   (["n", "number"], ["nd", "nl", "no"]),
   (["p", "punctuation", "punct"], ["pc", "pd", "ps", "pe", "pi", "pf", "po"]),
   (["s", "symbol"], ["sm", "sc", "sk", "so"]),
   (["z", "separator"], ["zs", "zl", "zp"])]

def other : CharSet := (assigned.diff (category ["cc", "cf", "co"])).complement

def category? (name : List Char) : Option CharSet :=
  match categoryGroups.find? (·.1.any (·.toList == name)) with
  | some (_, members) => some (category members)
  | none =>
    if name = "any".toList then some full
    else if name = "ascii".toList then some (range 0 0x7F)
    else if name = "assigned".toList then some assigned
    else if name = "cn".toList || name = "unassigned".toList then some assigned.complement
    else if name = "c".toList || name = "other".toList then some other
    else find? categoryTable name

end RecordText.CharSet
