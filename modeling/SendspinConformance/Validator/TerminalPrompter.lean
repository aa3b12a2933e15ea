import SendspinConformance.Validator.CodePairingChecks
import SendspinConformance.Validator.Link

set_option autoImplicit false

namespace Conformance.Validator.Terminal

open Python CodePairing

-- What read_line gives the reader thread: a line, or the end of input as an EOFError.
inductive Input where
  | line (text : String)
  | ended
deriving DecidableEq

-- A read on the worker thread: blocked in read_line, returned from it, and done once the
-- event loop has heard of the return.
inductive ReadStatus where
  | blocked
  | returned (input : Input)
  | done (input : Input)
deriving DecidableEq

-- What a question is answered with: free text, the index of a choice, or yes or no.
inductive Value where
  | text (text : String)
  | choice (index : Nat)
  | yes (value : Bool)
deriving DecidableEq

abbrev Parse := String → Py (Option Value)

-- text.lower(); no character beyond ASCII becomes a letter of the answers it is compared with.
def lower (text : String) : String := String.ofList (text.toList.map Char.toLower)

def controls : List (String × Reply) := [("s", .skip), ("r", .retry), ("?", .notSure)]

-- The parse of ask_text, of confirm and of ask_choice.
def parseText : Parse := fun line => .ok (if line = "" then none else some (.text line))

def yesAnswers : List (String × Bool) := [("y", true), ("yes", true), ("n", false), ("no", false)]

def parseConfirm : Parse := fun line => .ok ((yesAnswers.lookup (lower line)).map Value.yes)

def intDigitsLimit : Nat := 4300

def intLimitError (digits : Nat) : PyError :=
  ⟨"ValueError", "Exceeds the limit (4300 digits) for integer string conversion: value has " ++ toString digits ++
    " digits; use sys.set_int_max_str_digits() to increase the limit"⟩

-- int() refuses a text of more digits than its limit.
def parseChoice [UnicodeData] (choices : Nat) : Parse := fun line =>
  match decimalDigits line.toList with
  | some number =>
      if line.length > intDigitsLimit then .error (intLimitError line.length)
      else .ok (if 1 ≤ number ∧ number ≤ choices then some (.choice (number - 1)) else none)
  | none => .ok none

-- What TerminalPrompter._ask makes of a line; none where it asks again.
def takeLine (parse : Parse) (line : String) : Py (Option (Answer Value)) :=
  match controls.lookup (lower (strip line)) with
  | some reply => .ok (some { reply })
  | none => (parse (strip line)).map fun value => value.map fun given => { reply := .answered, value := some given }

-- A question that waits, and the read its shield is on.
structure Waiting where
  question : Nat
  parse : Parse
  awaits : Nat

structure Delivery where
  question : Nat
  read : Nat
  input : Input
deriving DecidableEq

-- The prompter, the reads it started and the questions asked through it, in order.
structure Prompter where
  reads : List ReadStatus := []
  reading : Option Nat := none
  waiting : Option Waiting := none
  asked : Nat := 0
  deliveries : List Delivery := []
  finished : List (Nat × Py (Answer Value)) := []

-- self._reading.done()
def isDone (prompter : Prompter) (read : Nat) : Bool :=
  match prompter.reads[read]? with
  | some (.done _) => true
  | _ => false

-- asyncio.ensure_future(asyncio.to_thread(self._read_line, ...))
def startRead (prompter : Prompter) : Prompter × Nat :=
  ({ prompter with reads := prompter.reads ++ [.blocked], reading := some prompter.reads.length }, prompter.reads.length)

-- TerminalPrompter._read up to its await, and the read it awaits.
def read (prompter : Prompter) : Prompter × Nat :=
  match prompter.reading with
  | some pending => if isDone prompter pending then startRead prompter else (prompter, pending)
  | none => startRead prompter

def awaitLine (prompter : Prompter) (question : Nat) (parse : Parse) : Prompter :=
  let awaited := read prompter
  { awaited.1 with waiting := some ⟨question, parse, awaited.2⟩ }

def finish (prompter : Prompter) (question : Nat) (outcome : Py (Answer Value)) : Prompter :=
  { prompter with waiting := none, finished := prompter.finished ++ [(question, outcome)] }

def eofError : PyError := ⟨"EOFError", ""⟩

-- The waiting question goes on with what its read gave.
def resumed (prompter : Prompter) (waiting : Waiting) (input : Input) : Prompter :=
  let heard := { prompter with deliveries := prompter.deliveries ++ [⟨waiting.question, waiting.awaits, input⟩] }
  match input with
  | .ended => finish heard waiting.question (.error eofError)
  | .line text =>
      let taken := { heard with reading := none }
      match takeLine waiting.parse text with
      | .ok (some answer) => finish taken waiting.question (.ok answer)
      | .ok none => awaitLine taken waiting.question waiting.parse
      | .error raised => finish taken waiting.question (.error raised)

-- One question waits at a time. The thread returns from a read before the loop is told of it.
inductive Event where
  | ask (parse : Parse)
  | cancel
  | returns (read : Nat) (input : Input)
  | told (read : Nat)
  | resume

def step (prompter : Prompter) : Event → Option Prompter
  | .ask parse =>
      match prompter.waiting with
      | none => some (awaitLine { prompter with asked := prompter.asked + 1 } prompter.asked parse)
      | some _ => none
  | .cancel => prompter.waiting.map fun _ => { prompter with waiting := none }
  | .returns read input =>
      match prompter.reads[read]? with
      | some .blocked => some { prompter with reads := prompter.reads.set read (.returned input) }
      | _ => none
  | .told read =>
      match prompter.reads[read]? with
      | some (.returned input) => some { prompter with reads := prompter.reads.set read (.done input) }
      | _ => none
  | .resume =>
      match prompter.waiting with
      | none => none
      | some waiting =>
          match prompter.reads[waiting.awaits]? with
          | some (.done input) => some (resumed prompter waiting input)
          | _ => none

-- A run of events from a new prompter, where each can happen.
def run (events : List Event) : Option Prompter := events.foldlM step {}

end Conformance.Validator.Terminal
