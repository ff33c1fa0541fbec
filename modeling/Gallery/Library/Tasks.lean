import Gallery.Library.Tags

/-!
Attaching tags to a picture by tasks of their own. A task waits for one of the connections, reads
its tag, takes the lock for writing, and commits. Who has read while another one writes is refused
the lock at once and gives up, and a change cannot be committed while others read. What the tasks
return is looked at in any order, and the first failure that is seen aborts those that still run.
-/

namespace Gallery.Library

structure Tasks where
  library : Library
  /-- The labels of the tasks without a connection. -/
  waiting : List String
  /-- The labels of the tasks with a connection and without the lock. -/
  reading : List String
  /-- The label of the task with the lock. -/
  writing : Option String
  /-- What ended tasks have returned and nobody has looked at. -/
  ended : List (Except LibraryError Int)
  /-- The first failure that was seen. -/
  failure : Option LibraryError

namespace Tasks

def start (library : Library) (labels : List String) : Tasks :=
  ⟨library, labels, [], none, [], none⟩

def connected (tasks : Tasks) : Nat :=
  tasks.reading.length + tasks.writing.toList.length

/-- What a task may return when others are in its way. -/
inductive Locked (picture : Int) (label : String) : LibraryError → Prop where
  | reads : Locked picture label (.failed .readCatalogue Statement.tagByLabel .locked)
  | writes : Locked picture label (.failed (.attachTag picture label) Statement.attachTag .locked)
  | commits : Locked picture label (.transaction .locked)

inductive Step (connections : Nat) (picture : Int) : Tasks → Tasks → Prop where
  | begins (tasks : Tasks) (before after : List String) (label : String)
      (waits : tasks.waiting = before ++ label :: after)
      (free : tasks.connected < connections) :
      Step connections picture tasks
        { tasks with waiting := before ++ after, reading := label :: tasks.reading }
  -- There is no such tag, or it has a definition.
  | refused (tasks : Tasks) (before after : List String) (label : String)
      (error : CatalogueError) (reads : tasks.reading = before ++ label :: after)
      (refused : tasks.library.attachTag picture label = .error (.refused error)) :
      Step connections picture tasks
        { tasks with
          reading := before ++ after
          ended := .error (.refused error) :: tasks.ended }
  | takesLock (tasks : Tasks) (before after : List String) (label : String)
      (reads : tasks.reading = before ++ label :: after) (free : tasks.writing = none)
      (admitted : ∀ error, tasks.library.attachTag picture label ≠ .error (.refused error)) :
      Step connections picture tasks
        { tasks with reading := before ++ after, writing := some label }
  | losesLock (tasks : Tasks) (before after : List String) (label : String)
      (error : LibraryError) (reads : tasks.reading = before ++ label :: after)
      (held : tasks.writing.isSome) (locked : Locked picture label error) :
      Step connections picture tasks
        { tasks with reading := before ++ after, ended := .error error :: tasks.ended }
  -- There is no such picture.
  | fails (tasks : Tasks) (label : String) (error : LibraryError)
      (writes : tasks.writing = some label)
      (failed : tasks.library.attachTag picture label = .error error) :
      Step connections picture tasks
        { tasks with writing := none, ended := .error error :: tasks.ended }
  -- A task may still commit after a failure was seen, when the abort comes too late for it.
  | commits (tasks : Tasks) (label : String) (id : Int) (next : Library)
      (writes : tasks.writing = some label)
      (done : tasks.library.attachTag picture label = .ok (id, next))
      (alone : tasks.reading = [] ∨ next = tasks.library) :
      Step connections picture tasks
        { tasks with library := next, writing := none, ended := .ok id :: tasks.ended }
  | losesCommit (tasks : Tasks) (label : String) (writes : tasks.writing = some label)
      (others : tasks.reading ≠ []) :
      Step connections picture tasks
        { tasks with writing := none, ended := .error (.transaction .locked) :: tasks.ended }
  | seesSuccess (tasks : Tasks) (before after : List (Except LibraryError Int)) (id : Int)
      (unfailed : tasks.failure = none) (returned : tasks.ended = before ++ .ok id :: after) :
      Step connections picture tasks { tasks with ended := before ++ after }
  | seesFailure (tasks : Tasks) (before after : List (Except LibraryError Int))
      (error : LibraryError) (unfailed : tasks.failure = none)
      (returned : tasks.ended = before ++ .error error :: after) :
      Step connections picture tasks
        { tasks with ended := before ++ after, failure := some error }
  | abortsWaiting (tasks : Tasks) (before after : List String) (label : String)
      (failed : tasks.failure.isSome) (waits : tasks.waiting = before ++ label :: after) :
      Step connections picture tasks { tasks with waiting := before ++ after }
  | abortsReading (tasks : Tasks) (before after : List String) (label : String)
      (failed : tasks.failure.isSome) (reads : tasks.reading = before ++ label :: after) :
      Step connections picture tasks { tasks with reading := before ++ after }
  | abortsWriting (tasks : Tasks) (failed : tasks.failure.isSome)
      (writes : tasks.writing.isSome) :
      Step connections picture tasks { tasks with writing := none }

/-- No task is left, and there is a failure or nothing to look at. -/
structure Finished (tasks : Tasks) (result : Except LibraryError Unit) : Prop where
  quiet : tasks.waiting = [] ∧ tasks.reading = [] ∧ tasks.writing = none
  seen : tasks.failure = none → tasks.ended = []
  result : result = match tasks.failure with
    | none => .ok ()
    | some error => .error error

end Tasks

/-- Attaches tags by tasks that meet: the first holds the lock when the second wants it. The failure
of the second is seen first, and the abort comes too late for the first. -/
def attachTagsMeeting (library : Library) (picture : Int) :
    List String → Library × Except LibraryError Unit
  | first :: second :: _ =>
      match library.attachTag picture first, library.attachTag picture second with
      | .error error, _ => (library, .error error)
      | .ok _, .error error => (library, .error error)
      | .ok (_, next), .ok _ =>
          (next, .error (.failed (.attachTag picture second) Statement.attachTag .locked))
  | labels => library.attachTags picture labels

end Gallery.Library
