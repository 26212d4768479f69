import PagedQuery.Fault
import PagedQuery.Schema.Basic

/-!
# Orders of bases

A type extends others in one order that keeps the order of each of them. Schemas without such an
order are refused.
-/

namespace PagedQuery

/-- The first name that comes again later. -/
def firstRepeated? : List String → Option String
  | [] => none
  | n :: ns => if ns.contains n then some n else firstRepeated? ns

namespace Schema

/-- The heads that are left where none of them can come first. -/
def stuckBases : Nat → List (List String) → List String
  | 0, _ => []
  | fuel + 1, lists =>
    match nextBase? lists with
    | some b => stuckBases fuel (lists.map fun l => if l.head? = some b then l.drop 1 else l)
    | none => (lists.filterMap (·.head?)).eraseDups

/-- Whether the bases of a type are in an order. -/
def checkBasesOf (s : Schema) (t : EntityType) : Except Fault Unit :=
  match firstRepeated? t.bases with
  | some name => .error (.repeatedBase name)
  | none =>
    let lists := t.bases.map (s.lineage s.types.length) ++ [t.bases]
    match stuckBases lists.flatten.length.succ lists with
    | [] => .ok ()
    | names => .error (.unorderedBases names)

def checkBases (s : Schema) : Except Fault Unit := s.types.forM s.checkBasesOf

end Schema

end PagedQuery
