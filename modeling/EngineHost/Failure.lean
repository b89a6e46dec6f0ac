/-
**What can go wrong, as causes, and the text of each.**

* `EngineFailure`: a failure of the hosted engine, in the engine's words;
* `PresenterFailure`: a dialog that a presenter could not show;
* `HostFailure`: a failure of the host, with `HostFailure.message` and the cause behind it, `HostFailure.source`;
* `Panic`: an execution that stops where it stands, with `Panic.message`.
-/

import EngineHost.Text.Prefix
import EngineHost.Text.Quoted

namespace EngineHost

/-- The failure an engine reports. -/
structure EngineFailure where
  message : String
deriving DecidableEq, Repr

/-- Why a presenter did not show a dialog. -/
inductive PresenterFailure
  /-- The system has no such primitive. -/
  | unavailable (primitive : String)
  | failed (reason : String)
deriving DecidableEq, Repr

/-- The text of a presenter's failure. -/
def PresenterFailure.message : PresenterFailure → String
  | .unavailable primitive => primitive ++ " is not available on this OS version"
  | .failed reason => reason

/-- A failure of the host. -/
inductive HostFailure
  | primitiveMissing (primitive : String)
  | dialogNotShown (reason : String)
  | engineFailed (error : EngineFailure)
  | noSession
  | threadNotStarted (reason : String)
  | threadPanicked
deriving DecidableEq, Repr

/-- The text of a host failure. -/
def HostFailure.message : HostFailure → String
  | .primitiveMissing primitive => "platform capability missing: " ++ primitive
  | .dialogNotShown reason => "dialog could not be presented: " ++ reason
  | .engineFailed error => "engine failure: " ++ error.message
  | .noSession => "engine session terminated"
  | .threadNotStarted reason => "failed to spawn render thread: " ++ reason
  | .threadPanicked => "render thread panicked"

/-- The text of the failure behind a host failure, if it carries one. -/
def HostFailure.source : HostFailure → Option String
  | .engineFailed error => some error.message
  | .threadNotStarted reason => some reason
  | _ => none

/-- The operations on integers that may leave their range. -/
inductive Arithmetic
  | addition
  | subtraction
  | multiplication
deriving DecidableEq, Repr

/-- The edges of a part of a text. -/
inductive Edge
  | start
  | stop
deriving DecidableEq, Repr

/-- The name of an edge. -/
def Edge.name : Edge → String
  | .start => "start"
  | .stop => "end"

/-- Why an execution stopped where it stood. -/
inductive Panic
  | overflow (operation : Arithmetic)
  /-- A thread was to be started under a name that holds a NUL. -/
  | nulInThreadName (name : String)
  /-- A text was to be cut at an offset in bytes inside a character, which begins at `first`. -/
  | insideCharacter (edge : Edge) (offset : Nat) (character : Char) (first : Nat)
  /-- A text of so many bytes was to be cut at an offset behind its end. -/
  | beyondText (offset length : Nat)
  /-- A frame loop was entered from a thread other than its owner. -/
  | foreignThread
  /-- Hosted code stopped itself, with this text. -/
  | raised (text : String)
deriving DecidableEq, Repr

/-- The place of the first NUL in a text, in bytes. -/
def nulPosition (text : String) : Nat := Text.utf8Length (text.toList.takeWhile (· != '\x00'))

/-- The bytes of a text, as numbers between commas. -/
def byteList (text : String) : String :=
  String.intercalate ", " (text.toUTF8.toList.map fun byte => toString byte.toNat)

/-- The first line of a panic's text. -/
def Panic.message : Panic → String
  | .nulInThreadName name =>
    "thread name may not contain interior null bytes: NulError(" ++ toString (nulPosition name) ++ ", [" ++
      byteList name ++ "])"
  | .insideCharacter edge offset character first =>
    edge.name ++ " byte index " ++ toString offset ++ " is not a char boundary; it is inside " ++
      Text.quotedChar character ++ " (bytes " ++ toString first ++ ".." ++
      toString (first + character.utf8Size) ++ " of string)"
  | .beyondText offset length =>
    "end byte index " ++ toString offset ++ " is out of bounds for string of length " ++ toString length
  | .overflow .addition => "attempt to add with overflow"
  | .overflow .subtraction => "attempt to subtract with overflow"
  | .overflow .multiplication => "attempt to multiply with overflow"
  | .foreignThread =>
    "assertion `left == right` failed: render loop entered from a thread other than the render thread"
  | .raised text => text

end EngineHost
