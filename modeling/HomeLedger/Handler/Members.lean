import HomeLedger.Handler.Basic

/-!
# HomeLedger — commands on members

Showing the members of the household, selecting one, and telling what one has.
-/

namespace HomeLedger.Handler

open Booking

/-- The member that a command is about: the one it names, else the selected one. -/
def askedMember (l : Ledger) (c : Command) (unnamed : Refusal) : Except Refusal Member :=
  match c.target? "member" .member with
  | some query =>
    match l.findMember? query with
    | some m => .ok m
    | none => .error (.noMember query)
  | none =>
    match l.currentMember? with
    | some m => .ok m
    | none => .error unnamed

/-- A member with name and role. -/
def memberLine (m : Member) : String := s!"{m.fullName} ({m.role.title})"

/-- Tells the active members. -/
def memberList : Handler := fun _ _ => do
  match (← get).members.filter (·.isActive) with
  | [] => return Response.ok "No family members yet"
  | active =>
    return (Response.ok ("\n".intercalate (active.map memberLine))).withData "members"
      (.array (active.map fun m => .string m.fullName))

/-- Shows a member and the member's active accounts. -/
def memberShow : Handler := fun s c => do
  let l ← get
  let m ← allowed (askedMember l c .noMemberToShow)
  let line (a : Account) : Except Fault String := do
    let shown ← s.formatting.currency (← l.balance a.id)
    return s!"  {a.name}: {shown}"
  let lines ← sound ((l.accountsOf m.id).mapM line)
  return (Response.ok ("\n".intercalate (memberLine m :: lines))).withText "member" m.fullName
    |>.withText "role" m.role.title

/-- Selects a member. -/
def memberSelect : Handler := fun _ c => do
  let query ← found .noMemberToSelect (c.target? "member" .member)
  let m ← Ledger.selectMember query
  return (Response.ok s!"Selected {m.fullName}").withText "member" m.fullName

/-- Tells what the active accounts of a member hold together. -/
def memberBalance : Handler := fun s c => do
  let l ← get
  let m ← allowed (askedMember l c .noMemberNamed)
  let total ← sound (l.memberBalance m.id)
  let shown ← sound (s.formatting.currency total)
  return (Response.ok s!"{m.fullName}: {shown}").withText "member" m.fullName
    |>.withText "balance" total.text

end HomeLedger.Handler
