import RouteView.Value.Writer

/-!
# Guestbook entries

The entries of the guestbook, in the order in which they were written, and the ways to select them.
-/
set_option autoImplicit false
namespace RouteView.Guestbook

structure Entry where
  id : Nat
  /-- Nobody, if the entry is anonymous. -/
  author : Option Text
  message : Text
  year : Text
  month : Text
deriving DecidableEq

namespace Entry

def toValue (e : Entry) : Value :=
  .object [("author", (e.author.map Value.text).getD .null), ("id", .int e.id), ("message", .text e.message),
    ("month", .text e.month), ("year", .text e.year)]

def isFrom (year month : Option Text) (e : Entry) : Bool :=
  (year.all fun y => e.year = y) && month.all fun m => e.month = m

end Entry

/-- All entries, the latest one last. -/
def entries : List Entry :=
  [⟨1, some "ada", "First!", "2025", "11"⟩, ⟨2, some "grace", "Nice <b>site</b>.", "2026", "01"⟩,
    ⟨3, none, "Just passing through.", "2026", "03"⟩]

/-- The entry of an identifier, written without a sign or leading zeros. -/
def findEntry? (id : Text) : Option Entry := entries.find? fun e => Text.ofNat e.id = id

end RouteView.Guestbook
