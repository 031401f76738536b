import ComplianceRegistry.Number.Basic
import ComplianceRegistry.Url.Host

/-!
# Revisions and the aims of commands

There is one revision, with nothing before it and nothing after it. An aim names it by the word
`head`, by its name or the front of its name; it names the point before it by `base`; or it tells a
number of steps from a named point or from where the database stands. A branch may be named before
an at sign. As there are no branches, the name of a branch has to be a name of the revision, but
not every way of reading an aim looks at it.

## Main definitions

* `Migration.Point` — where a database can stand
* `Migration.Refusal` — why a command is not carried out
* `Migration.revisionAt`, `Migration.revisionsAt` — what a name stands for
* `Migration.Steps`, `Migration.steps?` — a number of steps, and the aims that ask for it
* `Migration.upgradeAim`, `Migration.downgradeAim`, `Migration.stampAim` — where an aim leads
-/

namespace ComplianceRegistry.Migration

/-- Where a database can stand: before or after the one revision. -/
inductive Point
  | base
  | head
deriving DecidableEq, Repr

/-- Why a command is not carried out. -/
inductive Refusal
  | unknownRevision (name : Text)
  | missingSteps (written : Text) (count : Nat)
  | walkedTooFar
  | notBehind (aim : Text)
  | rangeRequired
  | rangeRefused
  /-- a range has more than two ends -/
  | rangeTooLong
  /-- a range starts at no revision, but not at `base` -/
  | rangeStartless
  /-- the aim leads to something that cannot be aimed at -/
  | impossible
  /-- the tables are not as the version table says -/
  | tablesAstray
deriving DecidableEq, Repr

/-- The message of a refusal; some have none of their own. -/
def Refusal.message? : Refusal → Option Text
  | .unknownRevision name =>
    some (("Can't locate revision identified by '" : Text) ++ name ++ ("'" : Text))
  | .missingSteps written count =>
    some (("Relative revision " : Text) ++ written ++ (" didn't produce " : Text) ++
      Text.ofNat count ++ (" migrations" : Text))
  | .walkedTooFar => some "Walked too far"
  | .notBehind aim =>
    some (("Destination " : Text) ++ aim ++
      (" is not a valid downgrade target from current head(s)" : Text))
  | .rangeRequired => some "downgrade with --sql requires <fromrev>:<torev>"
  | .rangeRefused => some "Range revision not allowed"
  | .rangeTooLong | .rangeStartless | .impossible | .tablesAstray => none

/-- The name of the revision. -/
def revision : Text := "001_regulation_engine"

/-! ### Names -/

/-- What a name stands for, or where steps lead. -/
inductive Spot
  /-- no revision -/
  | nothing
  | revision
  /-- the end of a way down -/
  | bottom
deriving DecidableEq, Repr

/-- Passes when the name is one of the revision: the name itself or its front. -/
def identify (name : Text) : Except Refusal Unit :=
  if name.isEmpty then .error .impossible
  else if name.isPrefixOf revision then .ok ()
  else .error (.unknownRevision name)

/-- The names that a name without a branch stands for. -/
def plainNames (name : Text) : List Text :=
  if name = ("head" : Text) ∨ name = ("heads" : Text) then [revision]
  else if name = ("base" : Text) then []
  else [name]

/-- A name in its parts: the branch before the first at sign, if there is one, and the rest. -/
def branchAndName (t : Text) : Option Text × Text :=
  let isAt (c : CodePoint) : Bool := c.isChar '@'
  if t.any isAt then
    (some (t.takeWhile fun c => !isAt c), (t.dropWhile fun c => !isAt c).drop 1)
  else (none, t)

/-- Passes when all names are of the revision, so that it lies on their line. -/
def onLine (names : List Text) : Except Refusal Unit := names.forM identify

/-- The branch that is named, if it is named by more than nothing. -/
def labelled (branch : Option Text) : Option Text := branch.filter fun b => !b.isEmpty

/-- The branch and the names that a name stands for. The head of a branch is looked up on its
line. -/
def resolve (t : Text) : Except Refusal (Option Text × List Text) :=
  let (branch, name) := branchAndName t
  let wantsHead := name = ("head" : Text) ∨ name = ("heads" : Text)
  match labelled branch with
  | some label =>
    if wantsHead then (onLine (plainNames label)).map fun _ => (branch, [revision])
    else .ok (branch, plainNames name)
  | none => .ok (branch, plainNames name)

/-- The names on whose line something has to lie to be on the line of an aim. -/
def line (aim : Text) : Except Refusal (List Text) := do
  let (branch, names) ← resolve aim
  .ok ((labelled branch).toList ++ names)

/-- What the name stands for: the revision, or nothing. A branch has to be one of its names. -/
def revisionAt (t : Text) : Except Refusal Spot := do
  let (branch, names) ← resolve t
  onLine (labelled branch).toList
  onLine names
  .ok (if names.isEmpty then .nothing else .revision)

/-! ### Steps -/

/-- The spot so many steps down. -/
def down : Nat → Spot → Spot
  | 0, s => s
  | n + 1, .nothing => down n .revision
  | n + 1, .revision => down n .bottom
  | _ + 1, .bottom => .nothing

/-- The spot so many steps up. Each step keeps to the line of the branch, if one is named. -/
def up (branch : Option Text) : Nat → Spot → Except Refusal Spot
  | 0, s => .ok s
  | n + 1, s => do
    let names ← match branch with
      | some label => line label
      | none => .ok []
    if s = .nothing then
      onLine names
      up branch n .revision
    else .ok .nothing

/-- What the name stands for. A negative number stands for as many steps down from the head, and
for nothing when it comes with a branch. -/
def revisionsAt (t : Text) : Except Refusal (List Spot) := do
  let (branch, names) ← resolve t
  match names, (names.head?).bind Number.integer? with
  | [], _ => .ok []
  | _, some (.negSucc n) => .ok (if branch.isSome then [] else [down (n + 1) .revision])
  | _, _ => .ok [← revisionAt t]

/-- A number of steps from a named point, or from where the database stands. -/
structure Steps where
  branch : Option Text
  start : Option Text
  count : Int
  written : Text
deriving DecidableEq, Repr

/-- A code point of a name: a letter, a digit or an underscore. -/
def isNamePart (c : CodePoint) : Bool :=
  c.isChar '_' || c.isDigit ||
    (c.lower.isLabelPoint && !c.isChar '-' && !Host.Label.isMark c)

/-- The steps that are written behind the name of a branch: a name, a sign and digits. What comes
after the digits does not count. -/
def stepsBehind? (branch : Option Text) (t : Text) : Option Steps :=
  match t.dropWhile isNamePart with
  | sign :: rest =>
    if sign.isChar '+' || sign.isChar '-' then
      match Number.takeDigits CodePoint.digitValue? rest with
      | ([], _) => none
      | (digits, after) =>
        let name := t.takeWhile isNamePart
        let n : Int := Number.ofDigits digits
        some
          { branch
            start := if name.isEmpty then none else some name
            count := if sign.isChar '-' then -n else n
            written := sign :: rest.take (rest.length - after.length) }
    else none
  | [] => none

/-- The steps behind the first at sign that steps follow; the code points before are given. -/
def stepsBehindBranch? (before : Text) : Text → Option Steps
  | [] => none
  | c :: rest =>
    let here :=
      if c.isChar '@' && !before.isEmpty then stepsBehind? (some before) rest else none
    here.or (stepsBehindBranch? (before ++ [c]) rest)

/-- The steps that an aim asks for: behind the name of a branch, or without one. -/
def steps? (aim : Text) : Option Steps :=
  (stepsBehindBranch? [] aim).or (stepsBehind? none aim)

/-! ### Aims -/

/-- The spot of a point. -/
def Point.spot : Point → Spot
  | .base => .nothing
  | .head => .revision

/-- Where steps up from where the database stands start, when they keep to a branch. -/
def startOnBranch (current : Point) (branch : Option Text) : Except Refusal Spot := do
  match branch, current with
  | none, _ => .ok current.spot
  | some label, .head =>
    onLine (← line label)
    .ok .revision
  | some label, .base =>
    let _ ← line label
    .ok .nothing

/-- The spots at which an upgrade aims. -/
def upgradeSpots (current : Point) (aim : Text) : Except Refusal (List Spot) := do
  match steps? aim with
  | none => revisionsAt aim
  | some steps =>
    match steps.start, steps.count with
    | some name, .ofNat (n + 1) => .ok [← up steps.branch (n + 1) (← revisionAt name)]
    | some name, n => .ok [down n.natAbs (← revisionAt name)]
    | none, .ofNat (n + 1) =>
      let spot ← up steps.branch (n + 1) (← startOnBranch current steps.branch)
      if spot = .nothing then .error (.missingSteps steps.written (n + 1)) else .ok [spot]
    | none, n => .error (.missingSteps (Text.ofInt n) n.natAbs)

/-- Where an upgrade leads. -/
def upgradeAim (current : Point) (aim : Text) : Except Refusal Point := do
  match ← upgradeSpots current aim with
  | [] => .ok current
  | spots => if spots.all (· = .revision) then .ok .head else .error .impossible

/-- The name of a revision together with a branch. -/
def onBranch (branch : Option Text) (name : Text) : Text :=
  match branch with
  | some label => label ++ ("@" : Text) ++ name
  | none => name

/-- The revision from which steps down from where the database stands start. -/
def startBelow (current : Point) (steps : Steps) : Except Refusal Spot := do
  match steps.branch, current with
  | none, .head => .ok .revision
  | none, .base => .error (.missingSteps steps.written steps.count.natAbs)
  | some label, .head =>
    onLine (← line label)
    revisionAt (onBranch (some label) revision)
  | some label, .base =>
    let _ ← line label
    .error .impossible

/-- The part of an aim behind its last at sign. -/
def withoutBranch (aim : Text) : Text := (aim.reverse.takeWhile fun c => !c.isChar '@').reverse

/-- The spot at which a downgrade aims. -/
def downgradeSpot (current : Point) (aim : Text) : Except Refusal Spot := do
  match steps? aim with
  | none => revisionAt (withoutBranch aim)
  | some steps =>
    match steps.start, steps.count with
    | some name, .ofNat n =>
      let spot ← up steps.branch n (← revisionAt name)
      if spot = .nothing then .error .walkedTooFar else .ok spot
    | none, .ofNat n => .error (.missingSteps steps.written n)
    | some name, .negSucc n =>
      let spot := down (n + 1) (← revisionAt (onBranch steps.branch name))
      if spot = .nothing then .error .walkedTooFar else .ok spot
    | none, .negSucc n =>
      let spot := down (n + 1) (← startBelow current steps)
      if spot = .nothing then .error (.missingSteps steps.written (n + 1)) else .ok spot

/-- Where a downgrade leads. It cannot go up. -/
def downgradeAim (current : Point) (aim : Text) : Except Refusal Point := do
  match current, ← downgradeSpot current aim with
  | .base, .revision => .error (.notBehind aim)
  | .head, .revision => .ok .head
  | _, _ => .ok .base

/-- Where a stamp leads. Where the database stands has to lie on the line of the aim. -/
def stampAim (current : Point) (aim : Text) : Except Refusal Point := do
  let names ← line aim
  if current = .head ∧ aim ≠ [] then onLine names
  match ← revisionsAt aim with
  | .revision :: _ => .ok .head
  | .bottom :: _ => .error .impossible
  | _ => .ok .base

end ComplianceRegistry.Migration
