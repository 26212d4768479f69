import PagedQuery.CommandLine.Invocation
import PagedQuery.Query.Request
import PagedQuery.Settings
import PagedQuery.Source.Basic

/-!
# Page sizes from settings

The page size of requests that name none comes from the settings, where any number may stand. A
page of a fractional size starts and ends at whole parts, and its sizes are told as they are.
-/

namespace PagedQuery

open PagedQuery.Number

namespace Settings

/-- The whole part of the default page size; one for a number that has none. -/
def wholeDefaultSize (settings : Settings) : Int :=
  match (settings .defaultPageSize).number? with
  | some (.finite negative c e, _) => Decimal.truncate negative c e
  | _ => 1

/-- The default page size, if it is no whole number. -/
def unusualSize? (settings : Settings) : Option Value :=
  match settings .defaultPageSize with
  | .int _ => none
  | v => some v

/-- The policy for requests; strictness can be asked for besides. -/
def policy (settings : Settings) (strict : Bool) : RequestPolicy where
  defaultSize := settings.wholeDefaultSize
  limit := SizeLimit.ofValue? (settings .maxPageSize)
  profile := .ofBool (strict || (settings .strictParsing).isTruthy)

/-- Refuses a default page size above the largest one. -/
def checkDefaultSize (settings : Settings) : Except Fault Unit :=
  let size := settings .defaultPageSize
  let limit := settings .maxPageSize
  if !limit.isTruthy then .ok ()
  else
    match Value.compare .greater size limit with
    | .error e => .error (.incomparable e)
    | .ok true => do throw (.pageSizeTooLarge (← size.written) (← limit.written))
    | .ok false => .ok ()

/-- The page size and number of a request. A size that is not given is the default one as it stands
in the settings. -/
def pageWindow (settings : Settings) (size number : Value) : Except Fault (Value × Int) :=
  match if size.isAbsent then settings.unusualSize? else none with
  | none => ((settings.policy false).pageWindow size number).map fun (s, n) => (.int s, n)
  | some default => do
    let number ← pageValue .number defaultPageNumber number
    settings.checkDefaultSize
    if number < 1 then throw (.telling number (.pageNumberTooSmall number))
    return (default, number)

end Settings

namespace CommandLine

/-- Whether arguments say how large pages are, themselves or through a saved query. -/
def RunArguments.namesSize (a : RunArguments) : Bool :=
  a.pageSize.isSome || (a.saved.filter (· != "")).isSome

/-- The page size and the number of pages as they are told. -/
structure ShownSizes where
  size : Value
  pages : Value

end CommandLine

open CommandLine

/-- The whole part of a number of elements. -/
def wholeElements (x : Float) : Except Fault Int :=
  match FloatParts.ofFloat x with
  | .finite negative m e => .ok (truncateFloat negative m e)
  | .infinite _ => .error (.pageInfinite false)
  | .notANumber => .error .pageNotANumber

/-- The number of pages of a fractional size: whole ones and one for what is left. -/
def fractionalPages (total : Int) (size : Float) : Value :=
  match FloatParts.ofFloat size with
  | .finite _ m e =>
    let unit := Nat.pow 2 e.natAbs
    let (n, d) := if 0 ≤ e then (total.toNat, m * unit) else (total.toNat * unit, m)
    if n < d ∨ d = 0 then .int 1
    else .float (floatOfDecimal (n / d + (if n % d = 0 then 0 else 1)) 0)
  | _ => .int 1

namespace Source

/-- One page of a query's matches, of a page size that need not be a whole number. -/
def runWithSize (source : Source) (q : PageQuery) :
    Option Value → Except Fault (Page Value × ShownSizes)
  | some (.float size) => do
    let (prepared, plan) ← source.prepare q
    let w ← PageWindow.of plan.pageNumber plan.pageSize (← prepared.count)
    let before := floatOfDecimal (plan.pageNumber - 1).natAbs 0
    let skip ← wholeElements (before * size)
    let elements ← prepared.fetch skip (← wholeElements size)
    return (.ofWindow w elements, ⟨.float size, fractionalPages w.total size⟩)
  | unusual? => do
    let page ← source.run q
    return (page, ⟨unusual?.getD (.int page.info.pageSize), .int page.info.totalPages⟩)

end Source

end PagedQuery
