import QueryGateway.Entity
import QueryGateway.Text.Split

/-! # Announcements

A client opens its result connection with one line that says who it is: `CLIENT_ID,c1`.
-/

namespace QueryGateway

/-- The first frame on a result connection. -/
structure Announcement where
  client : ClientId
  deriving DecidableEq, Repr

namespace Announcement

/-- The word before the comma. -/
def tag : String := "CLIENT_ID"

/-- The written form. -/
def text (a : Announcement) : String :=
  tag ++ "," ++ a.client.text

/-- Reads an announcement: one line, which may end in line breaks. -/
def parse? (payload : String) : Option Announcement := do
  let line := Text.trimEnd (fun c => c = '\r' || c = '\n') payload
  if '\n' ∈ line.toList then none
  let (word, id) ← Text.cut ',' line
  let id := Text.trim id
  if Text.trim word = tag && id ≠ "" then some ⟨⟨id⟩⟩ else none

end Announcement

end QueryGateway
