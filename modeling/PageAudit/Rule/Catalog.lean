import PageAudit.Rule.Catalog.Accessibility
import PageAudit.Rule.Catalog.Document
import PageAudit.Rule.Catalog.Loading
import PageAudit.Rule.Catalog.Safety
import PageAudit.Rule.Catalog.Scripting
import PageAudit.Rule.Catalog.Searching
import PageAudit.Rule.Catalog.Visiting
import PageAudit.Text.Case
/-!
The catalog of rules, in its order, the index of a list of rules by id, and the selection by a token:
the rules whose id starts with it and those whose source mentions it, letter case apart in the
source only.
-/
namespace PageAudit

open Catalog in
def catalog : List Rule :=
  accessibility ++ loading ++ searching ++ safety ++ document ++
  scripting ++ visiting ++ assisting ++ scriptStyle ++ auditing ++
  installing ++ sharing ++ designing

structure DuplicateId where
  id : String
  deriving DecidableEq, Repr

def DuplicateId.message (e : DuplicateId) : String := s!"Duplicate rule id in catalog: {e.id}"

def indexAfter : (seen : List String) → List Rule → Except DuplicateId (List (String × Rule))
  | _, [] => .ok []
  | seen, r :: rest =>
    if seen.contains r.id then .error ⟨r.id⟩
    else match indexAfter (r.id :: seen) rest with
      | .ok entries => .ok ((r.id, r) :: entries)
      | .error e => .error e

def index (rules : List Rule) : Except DuplicateId (List (String × Rule)) := indexAfter [] rules

def rule? (id : String) : Option Rule := catalog.find? fun r => r.id == id

def picks (token needle : String) (r : Rule) : Bool :=
  Text.startsWith r.id token || Text.mentions (Text.lowercase r.source) needle

def select (token : Option String) (rules : List Rule) : List Rule :=
  match token with
  | none => rules
  | some token =>
    if token.isEmpty || token == "all" then rules
    else rules.filter (picks token (Text.lowercase token))

end PageAudit
