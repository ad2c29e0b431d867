/-!
# Allocator symbols

The entry points of an allocator that are interposed. Each has a dense index, so that a set of them
is a few bits.
-/

namespace PointerTagging

/-- An interposed entry point. -/
inductive Symbol where
  | malloc
  | calloc
  | realloc
  | free
  | mallocUsableSize
  deriving DecidableEq, Repr

namespace Symbol

/-- The name under which the loader knows the symbol. -/
def name : Symbol → String
  | malloc => "malloc"
  | calloc => "calloc"
  | realloc => "realloc"
  | free => "free"
  | mallocUsableSize => "malloc_usable_size"

/-- The place of the symbol in a table of all of them. -/
def index : Symbol → Nat
  | malloc => 0
  | calloc => 1
  | realloc => 2
  | free => 3
  | mallocUsableSize => 4

/-- Every symbol, by index. -/
def all : List Symbol := [malloc, calloc, realloc, free, mallocUsableSize]

/-- How many symbols there are. -/
def count : Nat := all.length

/-- The symbol of a name. -/
def ofName? (name : String) : Option Symbol := all.find? fun s => s.name == name

theorem mem_all (s : Symbol) : s ∈ all := by cases s <;> decide

theorem index_injective {s t : Symbol} (h : s.index = t.index) : s = t := by
  cases s <;> cases t <;> simp_all [index]

end Symbol

/-- A set of symbols, a bit for each index. -/
structure SymbolSet where
  bits : BitVec 8
  deriving DecidableEq, Repr

namespace SymbolSet

/-- The empty set. -/
def empty : SymbolSet := ⟨0⟩

/-- The bit of a symbol. -/
def bit (s : Symbol) : BitVec 8 := 1#8 <<< s.index

/-- Membership. -/
def contains (set : SymbolSet) (s : Symbol) : Bool := set.bits &&& bit s != 0

/-- The set with the symbol. -/
def insert (set : SymbolSet) (s : Symbol) : SymbolSet := ⟨set.bits ||| bit s⟩

/-- The set without the symbol. -/
def erase (set : SymbolSet) (s : Symbol) : SymbolSet := ⟨set.bits &&& ~~~bit s⟩

end SymbolSet

/-- Why the real implementation of a symbol cannot be called. -/
inductive SymbolError where
  /-- The loader does not find the symbol. -/
  | unresolved (s : Symbol)
  /-- The symbol's slot holds no address. -/
  | unbound (s : Symbol)
  deriving DecidableEq, Repr

/-- The text of the error. -/
def SymbolError.message : SymbolError → String
  | .unresolved s => "could not resolve next `" ++ s.name ++ "`"
  | .unbound s => "`" ++ s.name ++ "` is not bound; refusing to call through a null slot"

end PointerTagging
