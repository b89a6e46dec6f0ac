/-
**The names of threads.**

* `ThreadName.cut`: the part of a name that the system keeps;
* `ThreadName.shown?`: the name that the system shows for a thread that asks for a name;
* `ThreadName.renamed`: the name of a thread after it has asked for another one;
* `ThreadName.toStart`: the name under which a thread may be started.
-/

import EngineHost.Text.Boundary

namespace EngineHost

namespace ThreadName

/-- The number of bytes the system keeps of a thread's name. -/
def limit : Nat := 15

/-- What is left of a name that takes more than `most` bytes. -/
def cut (most : Nat) (name : String) : Except Panic String :=
  (Text.cutToFit most name.toList).map String.ofList

/-- The name the system shows: none, if what is left of it holds a NUL. The cut does not panic. -/
def shown? (name : String) : Option String :=
  (cut limit name).toOption.filter fun kept => !kept.toList.contains '\x00'

/-- The name of a thread that has asked for another one: the old one, if the other one is refused. -/
def renamed (old name : String) : String := (shown? name).getD old

/-- A name for a thread that is to be started: however long, but a NUL in it is a panic. -/
def toStart (name : String) : Except Panic String :=
  if name.toList.contains '\x00' then .error (.nulInThreadName name) else .ok name

end ThreadName

end EngineHost
