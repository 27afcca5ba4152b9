import SpeechHost.Install.Attempt
import SpeechHost.Text.Blank
import SpeechHost.Text.Utf8
/-!
# Installing on a console

After every failed attempt the user is asked whether to try again, and answers with a line. The
installation went well when those who wait for the data were told so last.
-/

namespace SpeechHost.Install

open SpeechHost.Storage SpeechHost.Text

def Event.line : Event → String
  | .showInstalling => "Installing language pack...\n"
  | .offerRetry => "✗ Installation failed.\n"
  | .close => "✓ Language pack installed\n"
  | .dataInstalled _ => ""

def question : String := "Retry? [y/N] "

/-- Cuts bytes behind each line break. -/
def linesFrom (line : Bytes) : Bytes → List Bytes
  | [] => if line.isEmpty then [] else [line.reverse]
  | b :: bs => if b == 10 then (b :: line).reverse :: linesFrom [] bs else linesFrom (b :: line) bs

def lines (input : Bytes) : List Bytes :=
  linesFrom [] input

theorem flatten_linesFrom (line bs : Bytes) : (linesFrom line bs).flatten = line.reverse ++ bs := by
  induction bs generalizing line with
  | nil => cases line <;> simp [linesFrom]
  | cons b bs ih => rw [linesFrom]; split <;> simp [ih]

theorem flatten_lines (input : Bytes) : (lines input).flatten = input :=
  flatten_linesFrom [] input

/-- Whether a line asks for another try. A line that is no text does not. -/
def isYes (line : Bytes) : Bool :=
  match Utf8.decode? line with
  | some text => ["y", "Y", "yes"].contains (trim text)
  | none => false

/-- Makes an attempt; says whether another try is offered, and what the console shows. -/
def Site.shownAttempt (source : Source) (root : Path) (s : Site) : Bool × String × Site :=
  let before := s.events.length
  match s.attempt source .passive 0 root with
  | (none, s) => (false, "", s)
  | (some _, s) =>
    (s.installer.phase == .awaitingRetry,
      String.join ((s.events.drop before).map Event.line), s)

structure Talk where
  shown : String
  /-- Whether there were too few answers. -/
  unanswered : Bool
  site : Site

/-- Makes attempts for as long as the user asks for them. Where no answer is left, the user has gone
away. -/
def Site.converse (source : Source) (root : Path) (s : Site) (answers : List Bytes) : Talk :=
  match s.shownAttempt source root with
  | (false, shown, s) => ⟨shown, false, s⟩
  | (true, shown, s) =>
    match answers with
    | [] => ⟨shown ++ question, true, s.close⟩
    | line :: answers =>
      if isYes line then
        let talk := s.converse source root answers
        { talk with shown := shown ++ question ++ talk.shown }
      else
        ⟨shown ++ question, false, s.close⟩

/-- Whether those who wait for the data were told last that it is there. -/
def Site.succeeded (s : Site) : Bool :=
  let told := s.events.filterMap fun
    | .dataInstalled status => some status
    | _ => none
  told.getLast? == some .success

end SpeechHost.Install
