/-!
# Methods

The methods that the server knows. Requests and notifications have names of their own: what is
known as the one means nothing as the other.
-/

namespace ScriptAssist

/-- What is looked up by a name has this name. -/
theorem eq_name_of_find? {α : Type} {all : List α} {name : α → String} {s : String} {a : α}
    (h : all.find? (name · == s) = some a) : s = name a := by
  have hname := List.find?_some h
  exact (beq_iff_eq.1 hname).symm

/-- What a client can request. -/
inductive RequestMethod where
  | start
  | shutdown
  | completion
  | executeCommand
  deriving DecidableEq, Repr

namespace RequestMethod

/-- All methods. -/
def all : List RequestMethod :=
  [start, shutdown, completion, executeCommand]

/-- The name of a method. -/
def name : RequestMethod → String
  | start => "initialize"
  | shutdown => "shutdown"
  | completion => "textDocument/completion"
  | executeCommand => "workspace/executeCommand"

/-- The method of a name. -/
def ofName? (s : String) : Option RequestMethod :=
  all.find? (·.name == s)

theorem ofName?_name (m : RequestMethod) : ofName? m.name = some m := by
  cases m <;> decide

end RequestMethod

/-- What a client can notify the server of. -/
inductive NotificationMethod where
  | initialized
  | didOpen
  | didChange
  | didClose
  | exit
  deriving DecidableEq, Repr

namespace NotificationMethod

/-- All methods. -/
def all : List NotificationMethod :=
  [initialized, didOpen, didChange, didClose, exit]

/-- The name of a method. -/
def name : NotificationMethod → String
  | initialized => "initialized"
  | didOpen => "textDocument/didOpen"
  | didChange => "textDocument/didChange"
  | didClose => "textDocument/didClose"
  | exit => "exit"

/-- The method of a name. -/
def ofName? (s : String) : Option NotificationMethod :=
  all.find? (·.name == s)

theorem ofName?_name (m : NotificationMethod) : ofName? m.name = some m := by
  cases m <;> decide

end NotificationMethod

end ScriptAssist
