import NameFlow.OrderedMap
import NameFlow.Value

/-!
# The symbol table

Qualified keys hold value sets, and function keys hold a set of returned values and the
parameter lists of every declaration under that key. Sets only grow.
-/

namespace NameFlow

set_option autoImplicit false

structure Table where
  entries : OrderedMap String ValueSet
  returns : OrderedMap String ValueSet
  signatures : OrderedMap String (List (List String))
deriving Inhabited

namespace Table

def empty : Table := ⟨∅, ∅, ∅⟩

instance : EmptyCollection Table := ⟨empty⟩

/-- Values added to a slot; a slot that holds them all stays as it is. -/
def grow (values : ValueSet) (slot : Option ValueSet) : ValueSet :=
  (slot.getD ∅).union values

/-- Whether a slot lacks one of the values. -/
def lacks (values : ValueSet) (slot : Option ValueSet) : Bool :=
  !values.isSubset (slot.getD ∅)

def get? (t : Table) (key : String) : Option ValueSet := t.entries.get? key

def contains (t : Table) (key : String) : Bool := t.entries.contains key

def keys (t : Table) : List String := t.entries.keys

def size (t : Table) : Nat := t.entries.size

/-- Makes a key present, with one more value if one is given. -/
def record (t : Table) (key : String) (value : Option Value) : Table :=
  { t with entries := t.entries.update key fun slot =>
      match value with
      | some v => (slot.getD ∅).insert v
      | none => slot.getD ∅ }

/-- Adds values at a key and says whether one of them was new. -/
def merge (t : Table) (key : String) (values : ValueSet) : Table × Bool :=
  ({ t with entries := t.entries.update key (grow values) }, lacks values (t.entries.get? key))

def recordReturns (t : Table) (f : FunctionValue) (values : Option ValueSet) : Table :=
  { t with returns := t.returns.update f.key (grow (values.getD ∅)) }

/-- Adds values to a return slot and says whether one of them was new. -/
def mergeReturns (t : Table) (key : String) (values : ValueSet) : Table × Bool :=
  ({ t with returns := t.returns.update key (grow values) }, lacks values (t.returns.get? key))

def returnsAt (t : Table) (key : String) : Option ValueSet := t.returns.get? key

def returnsOf (t : Table) (f : FunctionValue) : Option ValueSet := t.returnsAt f.key

def recordSignature (t : Table) (f : FunctionValue) : Table :=
  { t with signatures := t.signatures.update f.key fun lists =>
      let lists := lists.getD []
      if f.params ∈ lists then lists else lists ++ [f.params] }

def signaturesOf (t : Table) (f : FunctionValue) : List (List String) :=
  (t.signatures.get? f.key).getD []

/-- Every slot of one map is a slot of the other with at least its values. -/
def covers (large small : OrderedMap String ValueSet) : Bool :=
  small.toList.all fun (key, values) =>
    match large.get? key with
    | some set => values.isSubset set
    | none => false

/-- Every key and return slot of `earlier` is present with at least its values. -/
def includes (t earlier : Table) : Bool :=
  covers t.entries earlier.entries && covers t.returns earlier.returns

private def dumpLine (key arrow : String) (values : ValueSet) : String :=
  key ++ arrow ++ "\x7b" ++ String.intercalate ", " values.render ++ "\x7d\n"

/-- One line a key, then one line a return slot. -/
def dump (t : Table) : String :=
  String.join (t.entries.toList.map fun (key, values) => dumpLine key " = " values) ++
    String.join (t.returns.toList.map fun (key, values) => dumpLine key "() -> " values)

end Table

end NameFlow
