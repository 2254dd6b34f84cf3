import GroupOperator.Settings
import GroupOperator.Text.Digit

/-!
# Arguments

How an argument is understood before any of them takes effect.

* A text without a hyphen in front is plain, and so are a lone hyphen, a negative number and a text
  with a blank in it, unless it begins like an option.
* A long option may be cut short as far as only one begins so, and may have its value attached with
  an equals sign; the short option takes whatever follows it as attached.
* Two hyphens alone make everything after them plain.
* What begins with a hyphen otherwise is unknown.

An argument that several options begin with is ambiguous, and then nothing is understood at all.
-/

namespace GroupOperator.CommandLine

/-! ## Options -/

/-- What an option asks for. -/
inductive Switch where
  /-- The help. -/
  | help
  /-- A value for a setting. -/
  | setting (s : Setting)
  deriving DecidableEq, Repr

/-- The option of a setting. -/
def optionOf : Setting → String
  | .kubeconfig => "--kubeconfig"
  | .namespaceName => "--namespace"
  | .workloadNamespace => "--workload-namespace"
  | .resyncPeriod => "--resync-period"
  | .logLevel => "--log-level"

/-- The settings, in the order of their options. -/
def settings : List Setting :=
  [.kubeconfig, .namespaceName, .workloadNamespace, .resyncPeriod, .logLevel]

/-- The short form of the option for help. -/
def shortHelp : String := "-h"

/-- The options that begin with two hyphens, and what they ask for. -/
def longOptions : List (String × Switch) :=
  ("--help", .help) :: settings.map fun s => (optionOf s, .setting s)

/-- An argument as it is understood. -/
inductive Argument where
  /-- A plain text. -/
  | plain (text : String)
  /-- The two hyphens after which everything is plain. -/
  | separator
  /-- Something that begins like an option and is none. -/
  | unknown (text : String)
  /-- The short form of the option for help, and what is attached to it. -/
  | shortHelp (attached : Option String)
  /-- A long option, and the value attached to it. -/
  | option (switch : Switch) (attached : Option String)
  deriving DecidableEq, Repr

/-! ## Understanding one argument -/

/-- Cuts a text at its first equals sign. -/
def splitAttached (cs : List Char) : List Char × Option String :=
  match cs.dropWhile (· != '=') with
  | [] => (cs, none)
  | _ :: value => (cs.takeWhile (· != '='), some (String.ofList value))

/-- Whether a text is a minus and a number in digits, with a point before the last of them or
without one; a line end may follow. -/
def isNegativeNumber (cs : List Char) : Bool :=
  match cs with
  | '-' :: rest =>
    let rest := if rest.getLast? = some '\n' then rest.dropLast else rest
    match rest.dropWhile Text.isDigit with
    | [] => !rest.isEmpty
    | '.' :: fraction => !fraction.isEmpty && fraction.all Text.isDigit
    | _ => false
  | _ => false

/-- An argument that several options begin with. -/
structure Ambiguity where
  /-- The argument. -/
  text : String
  /-- The options. -/
  options : List String
  deriving DecidableEq, Repr

/-- The long options that begin with `start`. -/
def matching (start : List Char) : List (String × Switch) :=
  longOptions.filter fun option => start.isPrefixOf option.1.toList

/-- An argument that is no option and has none attached to it. -/
def other (text : String) : Argument :=
  if isNegativeNumber text.toList || text.toList.contains ' ' then .plain text else .unknown text

/-- An argument that begins with two hyphens and goes on. -/
def understandLong (text : String) : Except Ambiguity Argument :=
  let (start, attached) := splitAttached text.toList
  match longOptions.lookup (String.ofList start), matching start with
  | some switch, _ => .ok (.option switch attached)
  | none, [] => .ok (other text)
  | none, [(_, switch)] => .ok (.option switch attached)
  | none, several => .error ⟨text, several.map (·.1)⟩

/-- An argument that begins with one hyphen and goes on. -/
def understandShort (text : String) : Argument :=
  match text.toList with
  | '-' :: 'h' :: [] => .shortHelp none
  | '-' :: 'h' :: '=' :: value => .shortHelp (some (String.ofList value))
  | '-' :: 'h' :: attached => .shortHelp (some (String.ofList attached))
  | _ => other text

/-- One argument. -/
def understand (text : String) : Except Ambiguity Argument :=
  match text.toList with
  | '-' :: '-' :: _ => understandLong text
  | '-' :: _ :: _ => .ok (understandShort text)
  | _ => .ok (.plain text)

/-- All arguments. -/
def understandAll : List String → Except Ambiguity (List Argument)
  | [] => .ok []
  | text :: rest =>
    if text = "--" then .ok (.separator :: rest.map .plain)
    else do
      let argument ← understand text
      let arguments ← understandAll rest
      return argument :: arguments

end GroupOperator.CommandLine
