import Catena.ServiceTexts

/-!
# Docker's side of the service flags

Docker sets the fields its flags name.  How it reads sizes, durations and
counts, and which digest it resolves an image to, stays open behind what its
documentation promises.
-/

namespace Catena

namespace SwarmService

/-- The fields of a service that the flags set. -/
inductive Field where
  | image
  | limitMemory
  | reserveMemory
  | stopGracePeriod
  | failureAction
  | monitor
  | failureRatio
  | order
  | constraints
  | healthTest
  | healthInterval
  | healthRetries
  | healthStartPeriod
  deriving DecidableEq

namespace Field

def all : List Field :=
  [image, limitMemory, reserveMemory, stopGracePeriod, failureAction, monitor, failureRatio,
    order, constraints, healthTest, healthInterval, healthRetries, healthStartPeriod]

theorem mem_all (field : Field) : field ∈ all := by
  cases field <;> decide

/-- Where `docker service inspect` shows the field. -/
def path : Field → List String
  | image => ["Spec", "TaskTemplate", "ContainerSpec", "Image"]
  | limitMemory => ["Spec", "TaskTemplate", "Resources", "Limits", "MemoryBytes"]
  | reserveMemory => ["Spec", "TaskTemplate", "Resources", "Reservations", "MemoryBytes"]
  | stopGracePeriod => ["Spec", "TaskTemplate", "ContainerSpec", "StopGracePeriod"]
  | failureAction => ["Spec", "UpdateConfig", "FailureAction"]
  | monitor => ["Spec", "UpdateConfig", "Monitor"]
  | failureRatio => ["Spec", "UpdateConfig", "MaxFailureRatio"]
  | order => ["Spec", "UpdateConfig", "Order"]
  | constraints => ["Spec", "TaskTemplate", "Placement", "Constraints"]
  | healthTest => ["Spec", "TaskTemplate", "ContainerSpec", "Healthcheck", "Test"]
  | healthInterval => ["Spec", "TaskTemplate", "ContainerSpec", "Healthcheck", "Interval"]
  | healthRetries => ["Spec", "TaskTemplate", "ContainerSpec", "Healthcheck", "Retries"]
  | healthStartPeriod => ["Spec", "TaskTemplate", "ContainerSpec", "Healthcheck", "StartPeriod"]

/-- The key of the desired dict that declares the field. -/
def key : Field → String
  | image => "image"
  | limitMemory => "limit_memory"
  | reserveMemory => "reserve_memory"
  | stopGracePeriod => "stop_grace_period"
  | failureAction => "update_failure_action"
  | monitor => "update_monitor"
  | failureRatio => "update_max_failure_ratio"
  | order => "update_order"
  | constraints => "constraints"
  | healthTest => "health_cmd"
  | healthInterval => "health_interval"
  | healthRetries => "health_retries"
  | healthStartPeriod => "health_start_period"

/-- The flag that sets the field; constraints have flags of their own. -/
def flag : Field → String
  | image => "--image"
  | limitMemory => "--limit-memory"
  | reserveMemory => "--reserve-memory"
  | stopGracePeriod => "--stop-grace-period"
  | failureAction => "--update-failure-action"
  | monitor => "--update-monitor"
  | failureRatio => "--update-max-failure-ratio"
  | order => "--update-order"
  | constraints => "--constraint"
  | healthTest => "--health-cmd"
  | healthInterval => "--health-interval"
  | healthRetries => "--health-retries"
  | healthStartPeriod => "--health-start-period"

/-- What a field that is not shown counts as. -/
def fallback : Field → Json
  | image => .str ""
  | failureAction => .str ""
  | order => .str ""
  | constraints => .null
  | healthTest => .null
  | _ => .int 0

/-- The live value of the field. -/
def live (field : Field) (service : Json) : Json :=
  (Json.valueAt field.path service).getD field.fallback

/-- No field lies inside another. -/
theorem path_apart {first second : Field} (different : first ≠ second) :
    Apart first.path second.path := by
  have every : ∀ one ∈ all, ∀ other ∈ all, one ≠ other → Apart one.path other.path := by
    decide +kernel
  exact every first (mem_all first) second (mem_all second) different

end Field

/-- The objects on the way to the fields. -/
def sections : List (List String) :=
  [["Spec"], ["Spec", "TaskTemplate"], ["Spec", "TaskTemplate", "ContainerSpec"],
    ["Spec", "TaskTemplate", "Resources"], ["Spec", "UpdateConfig"],
    ["Spec", "TaskTemplate", "Placement"], ["Spec", "TaskTemplate", "Resources", "Limits"],
    ["Spec", "TaskTemplate", "Resources", "Reservations"],
    ["Spec", "TaskTemplate", "ContainerSpec", "Healthcheck"]]

def ObjectOrEmpty (value : Option Json) : Prop :=
  ∀ found, value = some found → found.truthy = true → ∃ fields, found = .obj fields

def liveConstraints (service : Json) : List String :=
  match Field.constraints.live service with
  | .arr items => items.filterMap fun item =>
      match item with
      | .str text => some text
      | _ => none
  | _ => []

/-- A service as docker shows it: nested objects with the image as a string
and the constraints as a list of strings. -/
structure Shown (service : Json) : Prop where
  isObject : ∃ fields, service = .obj fields
  nested : ∀ path ∈ sections, ObjectOrEmpty (Json.valueAt path service)
  image : ∃ text, Field.image.live service = .str text
  constraints : (Field.constraints.live service).truthy = true →
    ∃ texts : List String, Field.constraints.live service = .arr (texts.map Json.str)

/-- The parts of docker that read a flag's text; `none` where docker refuses
it. -/
structure Docker where
  /-- The reference docker stores for an image. -/
  resolve : String → String
  size : String → Option Int
  duration : String → Option Int
  count : String → Option Int

/-- What one flag does to a service. -/
inductive Edit where
  | set (field : Field) (value : Json)
  | addConstraint (text : String)
  | removeConstraint (text : String)

def Edit.field : Edit → Field
  | set field _ => field
  | addConstraint _ => .constraints
  | removeConstraint _ => .constraints

def Edit.removes : Edit → Bool
  | removeConstraint _ => true
  | _ => false

/-- The list docker keeps the constraints in. -/
def constraintItems (service : Json) : List Json :=
  match Field.constraints.live service with
  | .arr items => items
  | _ => []

def Edit.value (service : Json) : Edit → Json
  | set _ value => value
  | addConstraint text => .arr (constraintItems service ++ [.str text])
  | removeConstraint text =>
      .arr ((constraintItems service).filter fun item => item ≠ .str text)

def Edit.apply (edit : Edit) (service : Json) : Json :=
  Json.setAt edit.field.path (edit.value service) service

def applyAll (edits : List Edit) (service : Json) : Json :=
  edits.foldl (fun current edit => edit.apply current) service

namespace Docker

/-- The value docker stores in a field for a flag's text. -/
def reads (docker : Docker) (field : Field) (text : String) : Option Json :=
  match field with
  | .image => some (.str (docker.resolve text))
  | .limitMemory => (docker.size text).map Json.int
  | .reserveMemory => (docker.size text).map Json.int
  | .stopGracePeriod => (docker.duration text).map Json.int
  | .failureAction => some (.str text)
  | .monitor => (docker.duration text).map Json.int
  | .failureRatio => none
  | .order => some (.str text)
  | .constraints => none
  | .healthTest => some (.arr [.str "CMD-SHELL", .str text])
  | .healthInterval => (docker.duration text).map Json.int
  | .healthRetries => (docker.count text).map Json.int
  | .healthStartPeriod => (docker.duration text).map Json.int

/-- The fields with a flag of their own. -/
def settable : List Field :=
  [.image, .limitMemory, .reserveMemory, .stopGracePeriod, .failureAction, .monitor,
    .failureRatio, .order, .healthTest, .healthInterval, .healthRetries, .healthStartPeriod]

/-- One flag with its text. -/
def edit (docker : Docker) (flag text : String) : Option Edit :=
  if flag = "--constraint" ∨ flag = "--constraint-add" then some (.addConstraint text)
  else if flag = "--constraint-rm" then some (.removeConstraint text)
  else (settable.find? fun field => field.flag = flag).bind fun field =>
    (docker.reads field text).map (.set field)

/-- The edits of a command line. -/
def edits (docker : Docker) : List String → Option (List Edit)
  | [] => some []
  | flag :: text :: rest => do
      let first ← docker.edit flag text
      let others ← docker.edits rest
      some (first :: others)
  | [_] => none

/-- `docker service update`: constraints are added before others are
removed. -/
def update (docker : Docker) (flags : List String) (service : Json) : Option Json :=
  (docker.edits flags).map fun edits =>
    applyAll (edits.filter (fun edit => !edit.removes) ++ edits.filter Edit.removes) service

/-- `docker service create`, from the service that the other flags describe. -/
def create (docker : Docker) (flags : List String) (image : String) (service : Json) :
    Option Json :=
  (docker.edits flags).map fun edits =>
    applyAll (.set .image (.str (docker.resolve image)) :: edits) service

/-- What docker's documentation promises of the readers: a text that is
accepted has its meaning, a pinned image is kept, and any other image is kept
or gets a digest.  `str` of an `int` is its decimal text. -/
structure Documented (docker : Docker) (py : Builtins) : Prop where
  repr_int : ∀ number : Int, py.repr (.int number) = toString number
  size_text : ∀ (size : SizeText) (bytes : Int), size.bytes < 2 ^ 53 →
    docker.size (String.ofList size.text) = some bytes → bytes = size.bytes
  duration_text : ∀ (duration : DurationText) (nanos : Int),
    docker.duration (String.ofList duration.text) = some nanos → nanos = duration.nanos
  count_text : ∀ number count : Int,
    docker.count (toString number) = some count → count = number
  resolve_pinned : ∀ image : String, '@' ∈ image.toList → docker.resolve image = image
  resolve_tagged : ∀ image : String, '@' ∉ image.toList →
    docker.resolve image = image ∨ ∃ digest, docker.resolve image = image ++ "@" ++ digest

end Docker

/-- A memory size: a number of bytes or a text. -/
inductive SizeValue where
  | number (bytes : Nat) (small : bytes < 2 ^ 53)
  | text (size : SizeText) (small : size.bytes < 2 ^ 53)

def SizeValue.json : SizeValue → Json
  | number bytes _ => .int bytes
  | text size _ => .str (String.ofList size.text)

def SizeValue.bytes : SizeValue → Nat
  | number bytes _ => bytes
  | text size _ => size.bytes

def DurationText.json (duration : DurationText) : Json :=
  .str (String.ofList duration.text)

/-- The healthcheck fields, which only come with a command. -/
structure Health where
  command : String
  interval : Option DurationText
  retries : Option Int
  startPeriod : Option DurationText

/-- What a desired dict declares. -/
structure Desired where
  image : Option String
  limitMemory : Option SizeValue
  reserveMemory : Option SizeValue
  stopGracePeriod : Option DurationText
  failureAction : Option String
  monitor : Option DurationText
  order : Option String
  constraints : Option (List Json)
  health : Option Health

namespace Desired

/-- The value a desired dict has for the key of a field. -/
def wanted (desired : Desired) : Field → Option Json
  | .image => desired.image.map Json.str
  | .limitMemory => desired.limitMemory.map SizeValue.json
  | .reserveMemory => desired.reserveMemory.map SizeValue.json
  | .stopGracePeriod => desired.stopGracePeriod.map DurationText.json
  | .failureAction => desired.failureAction.map Json.str
  | .monitor => desired.monitor.map DurationText.json
  | .failureRatio => none
  | .order => desired.order.map Json.str
  | .constraints => desired.constraints.map Json.arr
  | .healthTest => desired.health.map fun health => .str health.command
  | .healthInterval => (desired.health.bind Health.interval).map DurationText.json
  | .healthRetries => (desired.health.bind Health.retries).map Json.int
  | .healthStartPeriod => (desired.health.bind Health.startPeriod).map DurationText.json

/-- A dict that declares this much and no failure ratio. -/
def Describes (desired : Desired) (fields : PyDict String Json) : Prop :=
  ∀ field : Field, PyDict.get fields field.key = desired.wanted field

/-- The value a declared field has in a service that is as desired; images and
constraints are compared on their own. -/
def meant (desired : Desired) : Field → Option Json
  | .limitMemory => desired.limitMemory.map fun size => .int size.bytes
  | .reserveMemory => desired.reserveMemory.map fun size => .int size.bytes
  | .stopGracePeriod => desired.stopGracePeriod.map fun duration => .int duration.nanos
  | .failureAction => desired.failureAction.map Json.str
  | .monitor => desired.monitor.map fun duration => .int duration.nanos
  | .order => desired.order.map Json.str
  | .healthTest => desired.health.map fun health =>
      .arr [.str "CMD-SHELL", .str health.command]
  | .healthInterval =>
      (desired.health.bind Health.interval).map fun duration => .int duration.nanos
  | .healthRetries => (desired.health.bind Health.retries).map Json.int
  | .healthStartPeriod =>
      (desired.health.bind Health.startPeriod).map fun duration => .int duration.nanos
  | _ => none

def constraintTexts (py : Builtins) (desired : Desired) : Option (List String) :=
  desired.constraints.map fun listed => listed.map fun constraint => constraint.toText py

def durations (desired : Desired) : List DurationText :=
  desired.stopGracePeriod.toList ++ desired.monitor.toList ++
    (desired.health.bind Health.interval).toList ++
    (desired.health.bind Health.startPeriod).toList

end Desired

/-- The live image is the wanted one, or has a digest where the wanted one has
none. -/
def ImageAgrees (live : Json) (want : String) : Prop :=
  live = .str want ∨
    '@' ∉ want.toList ∧ ∃ digest : String, live = .str (want ++ "@" ++ digest)

/-- Every declared field of the live service equals what the dict says. -/
structure Agrees (py : Builtins) (desired : Desired) (service : Json) : Prop where
  image : ∀ want, desired.image = some want → ImageAgrees (Field.image.live service) want
  constraints : ∀ texts, desired.constraintTexts py = some texts →
    ∀ text, text ∈ liveConstraints service ↔ text ∈ texts
  others : ∀ field value, desired.meant field = some value →
    Json.pyEq (field.live service) value = true

end SwarmService

end Catena
