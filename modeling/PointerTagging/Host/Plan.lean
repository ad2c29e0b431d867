import PointerTagging.Host.Utility.View
/-!
# Plans

What a program comes to that decides first and acts then: it is done, or it starts others.
-/

namespace PointerTagging.Host

/-- What a program comes to. -/
inductive Plan where
  | finished (outcome : Outcome)
  /-- The program complains first, starts the program that some words name in a context of its
  own, and returns a code that depends on how that ends. `refused` is what it does if the program
  cannot be started. -/
  | launching (errors : String) (context : Context) (words : List String)
      (refused : SystemError → Outcome) (code : Ending → UInt8)
  /-- The program that some words name takes its place, as in a shell, in a context of its own. -/
  | replaced (context : Context) (words : List String) (refused : SystemError → Outcome)
  /-- The same, but a signal ends the other program if it takes longer than `limit` thousandths of
  a second; a `limit` of zero is none. Then `errors` are printed, and `late` is how this one ends
  if it does not end like the other one. -/
  | limited (limit : Nat) (signal : Nat) (errors : String) (late : Option Ending)
      (context : Context) (words : List String) (refused : SystemError → Outcome)
  /-- The program starts one after the other what groups of words name, and shows them first if
  `isShown`. If it has `failed` it returns 1 at least. -/
  | repeated (isShown : Bool) (errors : String) (failed : Bool) (context : Context)
      (commands : List (List String))

/-- What makes a plan of a context and arguments. -/
abbrev Planner := Tree → Context → (arguments : List String) → Plan

end PointerTagging.Host
