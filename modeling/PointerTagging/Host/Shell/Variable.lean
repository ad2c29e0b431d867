import PointerTagging.Host.Shell.Grammar
/-!
# Variables of the shell

What a shell knows of a variable: its value or the elements of an array, and what is special about
it.
-/

namespace PointerTagging.Host.Shell

/-! ## Arrays -/

/-- The number of buckets that texts are spread over. -/
def bucketCount : Nat := 1024

/-- The bucket of a text: each byte multiplies the number so far and changes its low bits. -/
def bucketOf (text : String) : Nat :=
  let step (n : Nat) (c : Char) : Nat := (n * 16777619 % 4294967296) ^^^ c.toNat
  text.toList.foldl step 2166136261 % bucketCount

/-- The elements of an array. -/
inductive Collection where
  /-- Elements at numbers, in their order. -/
  | indexed (elements : List (Nat × String))
  /-- Elements at texts, bucket by bucket, in each the latest first. -/
  | keyed (elements : List (String × String))
  deriving DecidableEq, Repr

namespace Collection

/-- True of an array whose keys are texts. -/
def isKeyed : Collection → Bool
  | .indexed _ => false
  | .keyed _ => true

/-- The keys. -/
def keys : Collection → List String
  | .indexed elements => elements.map fun e => toString e.1
  | .keyed elements => elements.map (·.1)

/-- The values, in the order of the keys. -/
def values : Collection → List String
  | .indexed elements => elements.map (·.2)
  | .keyed elements => elements.map (·.2)

/-- The values from a numbered place on, or from a position among the keys. -/
def «from» (start : Int) : Collection → List String
  | .indexed elements =>
    if start < 0 then []
    else (elements.filter fun e => decide (start ≤ (e.1 : Int))).map (·.2)
  | .keyed elements => (elements.map (·.2)).drop (start.toNat - 1)

/-- The value at a key. -/
def get? (collection : Collection) (key : String) : Option String :=
  ((collection.keys.zip collection.values).find? fun e => e.1 == key).map (·.2)

/-- The number of the first place behind all elements. -/
def next : Collection → Nat
  | .indexed elements => (elements.getLast?.map fun e => e.1 + 1).getD 0
  | .keyed _ => 0

/-- Puts a value where the elements behind `isBefore` begin. -/
def insert (isBefore : α → Bool) (element : α) (elements : List α) : List α :=
  elements.takeWhile isBefore ++ element :: elements.dropWhile isBefore

/-- The array with a value at a key; the key of a numbered element has to be a number. -/
def put (key value : String) : Collection → Collection
  | .indexed elements =>
    let n := key.toNat?.getD 0
    .indexed (insert (fun e => e.1 < n) (n, value) (elements.filter fun e => e.1 != n))
  | .keyed elements =>
    if elements.any fun e => e.1 == key then
      .keyed (elements.map fun e => if e.1 == key then (key, value) else e)
    else .keyed (insert (fun e => bucketOf e.1 < bucketOf key) (key, value) elements)

/-- The array without the element at a key. -/
def remove (key : String) : Collection → Collection
  | .indexed elements => .indexed (elements.filter fun e => toString e.1 != key)
  | .keyed elements => .keyed (elements.filter fun e => e.1 != key)

end Collection

/-! ## Bindings -/

/-- What is known of a variable. -/
structure Binding where
  /-- The value, if it is set; that of the first element of an array. -/
  value : Option String
  exported : Bool
  fixed : Bool
  array : Option Collection
  /-- Values are computed. -/
  isInteger : Bool
  /-- What is done to the letters of values. -/
  letters : Option CaseChange
  /-- The value is the name of another variable, which is meant. -/
  isReference : Bool
  deriving DecidableEq, Repr

namespace Binding

/-- A variable that nothing is known of. -/
def none : Binding := ⟨.none, false, false, .none, false, .none, false⟩

/-- A variable with a value. -/
def holding (value : String) (exported : Bool) : Binding :=
  { none with value := some value, exported }

/-- True of a variable that there is. -/
def isKnown (b : Binding) : Bool := b != none

/-- The key of the element that stands for the whole array. -/
def firstKey : String := "0"

/-- The variable with other elements. -/
def withArray (b : Binding) (array : Collection) : Binding :=
  { b with array := some array, value := array.get? firstKey }

/-- The variable with another value: in an array that of the first element. -/
def withValue (b : Binding) (value : String) : Binding :=
  match b.array with
  | some array => b.withArray (array.put firstKey value)
  | .none => { b with value := some value }

/-- The elements of a variable, which is an array of one element if it is none. -/
def elements (b : Binding) : Collection :=
  b.array.getD (.indexed ((b.value.map fun value => (0, value)).toList))

/-- The letters for what is special about a variable. -/
def traits (b : Binding) : String :=
  let mark (test : Bool) (letter : String) : String := if test then letter else ""
  mark ((b.array.map fun a => !a.isKeyed).getD false) "a" ++
    mark ((b.array.map Collection.isKeyed).getD false) "A" ++ mark b.isInteger "i" ++
    mark b.isReference "n" ++ mark b.fixed "r" ++ mark b.exported "x" ++
    mark (b.letters == some .lower) "l" ++ mark (b.letters == some .raise) "u"

end Binding

end PointerTagging.Host.Shell
