import GastownQueue.GoInt

/-! The queue metadata codec of `queue_metadata.go`: the record kept in a bead description after
the delimiter `---gt:queue:v1---`, its line format, the parser with its stop at a second
delimiter, and the strip. A description carrying a block is written in three places
(`enqueueBead`, its convoy re-persist, `recordDispatchFailure`), each as the stripped old
description, a newline when that is non-empty, and the formatted block. -/

namespace GastownQueue

open Strings Strconv

structure QueueMetadata where
  targetRig : GoString := []
  formula : GoString := []
  args : GoString := []
  vars : GoString := []
  enqueuedAt : GoString := []
  merge : GoString := []
  convoy : GoString := []
  baseBranch : GoString := []
  noMerge : Bool := false
  account : GoString := []
  agent : GoString := []
  hookRawBead : Bool := false
  owned : Bool := false
  dispatchFailures : GoInt := 0
  lastFailure : GoString := []
  deriving DecidableEq, Repr

def queueMetadataDelimiter : GoString := "---gt:queue:v1---".toList

/-- The `": "` between a key and its value, in `Sprintf` and in `SplitN`. -/
def keySeparator : GoString := ": ".toList

/-- The keys `ParseQueueMetadata` switches on. -/
inductive MetadataKey
  | targetRig | formula | args | var | vars | enqueuedAt | merge | convoy | baseBranch | noMerge
  | account | agent | hookRawBead | noBoot | owned | dispatchFailures | lastFailure
  deriving DecidableEq, Repr

namespace MetadataKey

/-- The key as it is written in a line. -/
def name : MetadataKey → GoString
  | targetRig => "target_rig".toList
  | formula => "formula".toList
  | args => "args".toList
  | var => "var".toList
  | vars => "vars".toList
  | enqueuedAt => "enqueued_at".toList
  | merge => "merge".toList
  | convoy => "convoy".toList
  | baseBranch => "base_branch".toList
  | noMerge => "no_merge".toList
  | account => "account".toList
  | agent => "agent".toList
  | hookRawBead => "hook_raw_bead".toList
  | noBoot => "no_boot".toList
  | owned => "owned".toList
  | dispatchFailures => "dispatch_failures".toList
  | lastFailure => "last_failure".toList

def all : List MetadataKey :=
  [targetRig, formula, args, var, vars, enqueuedAt, merge, convoy, baseBranch, noMerge, account,
    agent, hookRawBead, noBoot, owned, dispatchFailures, lastFailure]

/-- The case of the `switch` a trimmed key selects; `none` for an unknown key. -/
def ofName? (key : GoString) : Option MetadataKey :=
  all.find? (·.name == key)

/-- The keys of the string fields other than `Vars`. -/
def IsText : MetadataKey → Bool
  | targetRig | formula | args | enqueuedAt | merge | convoy | baseBranch | account | agent
  | lastFailure => true
  | _ => false

/-- The keys of the boolean fields. -/
def IsFlag : MetadataKey → Bool
  | noMerge | hookRawBead | owned => true
  | _ => false

theorem ofName?_name (k : MetadataKey) : ofName? k.name = some k := by
  cases k <;> decide

/-- A key is a run of letters and underscores. -/
theorem name_spec (k : MetadataKey) :
    k.name ≠ [] ∧ ∀ c ∈ k.name, c ≠ ':' ∧ c ≠ '-' ∧ isSpace c = false := by
  cases k <;> decide

end MetadataKey

namespace QueueMetadata

/-- The string field a text key names. -/
def getText (m : QueueMetadata) : MetadataKey → GoString
  | .targetRig => m.targetRig
  | .formula => m.formula
  | .args => m.args
  | .enqueuedAt => m.enqueuedAt
  | .merge => m.merge
  | .convoy => m.convoy
  | .baseBranch => m.baseBranch
  | .account => m.account
  | .agent => m.agent
  | .lastFailure => m.lastFailure
  | _ => []

/-- The assignment `m.<Field> = val` of a text key's case. -/
def setText (m : QueueMetadata) (k : MetadataKey) (val : GoString) : QueueMetadata :=
  match k with
  | .targetRig => { m with targetRig := val }
  | .formula => { m with formula := val }
  | .args => { m with args := val }
  | .enqueuedAt => { m with enqueuedAt := val }
  | .merge => { m with merge := val }
  | .convoy => { m with convoy := val }
  | .baseBranch => { m with baseBranch := val }
  | .account => { m with account := val }
  | .agent => { m with agent := val }
  | .lastFailure => { m with lastFailure := val }
  | _ => m

/-- The boolean field a flag key names. -/
def getFlag (m : QueueMetadata) : MetadataKey → Bool
  | .noMerge => m.noMerge
  | .hookRawBead => m.hookRawBead
  | .owned => m.owned
  | _ => false

/-- The assignment `m.<Field> = val == "true"` of a flag key's case. -/
def setFlag (m : QueueMetadata) (k : MetadataKey) (b : Bool) : QueueMetadata :=
  match k with
  | .noMerge => { m with noMerge := b }
  | .hookRawBead => { m with hookRawBead := b }
  | .owned => { m with owned := b }
  | _ => m

/-- The string fields other than `Vars`, in the order `FormatQueueMetadata` writes them. -/
def textFields (m : QueueMetadata) : List GoString :=
  [m.targetRig, m.formula, m.args, m.enqueuedAt, m.merge, m.convoy, m.baseBranch, m.account,
    m.agent, m.lastFailure]

end QueueMetadata

/-- The line `key: value` of a field. -/
def fieldLine (key : MetadataKey) (val : GoString) : GoString :=
  key.name ++ keySeparator ++ val

/-- A string field's line, written when the value is non-empty. -/
def stringLine (key : MetadataKey) (val : GoString) : List GoString :=
  if val = [] then [] else [fieldLine key val]

/-- A boolean field's line, written when it is set. -/
def boolLine (key : MetadataKey) (b : Bool) : List GoString :=
  if b then [fieldLine key "true".toList] else []

/-- The loop over `strings.Split(vars, "\n")` that keeps the non-empty trimmed lines; both
`FormatQueueMetadata` and `splitVars` run it. -/
def varEntries (vars : GoString) : List GoString :=
  ((split vars '\n').map trimSpace).filter (· ≠ [])

def splitVars (vars : GoString) : List GoString :=
  if vars = [] then [] else varEntries vars

/-- The lines after the delimiter, in the order `FormatQueueMetadata` appends them. -/
def metadataLines (m : QueueMetadata) : List GoString :=
  stringLine .targetRig m.targetRig ++ stringLine .formula m.formula ++
    stringLine .args m.args ++ (varEntries m.vars).map (fieldLine .var) ++
    stringLine .enqueuedAt m.enqueuedAt ++ stringLine .merge m.merge ++
    stringLine .convoy m.convoy ++ stringLine .baseBranch m.baseBranch ++
    boolLine .noMerge m.noMerge ++ stringLine .account m.account ++ stringLine .agent m.agent ++
    boolLine .hookRawBead m.hookRawBead ++ boolLine .owned m.owned ++
    (if 0 < m.dispatchFailures.val then [fieldLine .dispatchFailures (itoa m.dispatchFailures)]
      else []) ++
    stringLine .lastFailure m.lastFailure

def formatQueueMetadata (m : QueueMetadata) : GoString :=
  join (queueMetadataDelimiter :: metadataLines m) "\n".toList

/-- The `switch key` of `ParseQueueMetadata`: one `key: value` line applied to the record built
so far and to the collected `var` lines. -/
def applyField (key val : GoString) (acc : QueueMetadata × List GoString) :
    QueueMetadata × List GoString :=
  match MetadataKey.ofName? key with
  | some .var => (acc.1, acc.2 ++ [val])
  | some .vars => (acc.1, acc.2 ++ split val ',')
  | some .noBoot => acc
  | some .dispatchFailures =>
      match atoi val with
      | (n, true) => ({ acc.1 with dispatchFailures := n }, acc.2)
      | (_, false) => acc
  | some k =>
      if k.IsFlag then (acc.1.setFlag k (val == "true".toList), acc.2)
      else (acc.1.setText k val, acc.2)
  | none => acc

/-- One line of the section; `none` is the `break` at a second delimiter. -/
def parseLine (acc : QueueMetadata × List GoString) (raw : GoString) :
    Option (QueueMetadata × List GoString) :=
  let line := trimSpace raw
  if line = [] then some acc
  else if line = queueMetadataDelimiter then none
  else
    match splitN line keySeparator 2 with
    | [k, v] => some (applyField (trimSpace k) (trimSpace v) acc)
    | _ => some acc

/-- The loop of `ParseQueueMetadata` over the lines of the section. -/
def parseLines : List GoString → QueueMetadata × List GoString → QueueMetadata × List GoString
  | [], acc => acc
  | raw :: rest, acc =>
      match parseLine acc raw with
      | none => acc
      | some acc' => parseLines rest acc'

/-- `ParseQueueMetadata`; `none` is the `nil` of a description without the delimiter. -/
def parseQueueMetadata (description : GoString) : Option QueueMetadata :=
  match index description queueMetadataDelimiter with
  | none => none
  | some idx =>
      let body := description.drop (idx + queueMetadataDelimiter.length)
      let (m, varLines) := parseLines (split body '\n') ({}, [])
      some (if varLines.length > 0 then { m with vars := join varLines "\n".toList } else m)

/-- `NewQueueMetadata`, stamped with the clock reading it formats. -/
def newQueueMetadata (rigName : GoString) (now : Rfc3339) : QueueMetadata :=
  { targetRig := rigName, enqueuedAt := now.text }

def stripQueueMetadata (description : GoString) : GoString :=
  match index description queueMetadataDelimiter with
  | none => description
  | some idx => trimRight (description.take idx) "\n".toList

/-- The description the three writers build: the stripped old text, a newline when it is
non-empty, then the block. -/
def withMetadataBlock (baseDesc metaBlock : GoString) : GoString :=
  (if baseDesc = [] then [] else baseDesc ++ "\n".toList) ++ metaBlock

end GastownQueue
