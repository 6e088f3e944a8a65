import Catena.JsonPaths
import Catena.PyFloats

/-!
# Service drift

The two filters over one desired dict: the flags a service is created with,
and the flags that bring a live service back to it.
-/

namespace Catena

namespace SwarmService

inductive FilterError where
  | valueError (message : String)
  | typeError
  | attributeError
  | overflowError
  deriving DecidableEq

def byteSuffixes : PyDict Char Nat :=
  [('b', 1), ('k', 1024), ('m', 1024 ^ 2), ('g', 1024 ^ 3), ('t', 1024 ^ 4)]

/-- `_DURATION_UNITS`, in the order they are tried. -/
def durationUnits : List (List Char × Nat) :=
  [(['n', 's'], 1), (['u', 's'], 1000), (['m', 's'], 1000000), (['s'], 1000000000),
    (['m'], 60 * 1000000000), (['h'], 3600 * 1000000000)]

/-- `int(number)` of a float. -/
def truncate : PyFloat → Except FilterError Int
  | .finite value => .ok (value.num.tdiv value.den)
  | .negZero => .ok 0
  | .inf => .error .overflowError
  | .negInf => .error .overflowError
  | .nan => .error (.valueError "cannot convert float NaN to integer")

/-- `float(text)`. -/
def readFloat (py : Builtins) (text : List Char) : Except FilterError PyFloat :=
  match PyText.float text with
  | some number => .ok number
  | none => .error (.valueError
      ("could not convert string to float: " ++ py.repr (.str (String.ofList text))))

/-- `float(value)`. -/
def asFloat (py : Builtins) : Json → Except FilterError PyFloat
  | .bool value => .ok (.finite (if value then 1 else 0))
  | .int value =>
      match PyFloat.nearest value with
      | .inf => .error .overflowError
      | .negInf => .error .overflowError
      | number => .ok number
  | .float value => .ok value
  | .str text => readFloat py text.toList
  | _ => .error .typeError

/-- `int(value)`. -/
def asInt (py : Builtins) : Json → Except FilterError Int
  | .bool value => .ok (if value then 1 else 0)
  | .int value => .ok value
  | .float value => truncate value
  | .str text =>
      match PyText.int text.toList with
      | some number => .ok number
      | none => .error (.valueError
          ("invalid literal for int() with base 10: " ++ py.repr (.str text)))
  | _ => .error .typeError

/-- The characters `rstrip("ib")` drops. -/
def trailing (character : Char) : Bool :=
  character = 'i' || character = 'b'

def asBytes (py : Builtins) (value : Json) : Except FilterError Int :=
  let bad : Except FilterError Int :=
    .error (.valueError ("swarm_service_drift: bad memory value " ++ py.repr value))
  match value with
  | .bool _ => .error (.valueError "swarm_service_drift: memory value must not be a bool")
  | .int bytes => .ok bytes
  | .str written =>
      if PyText.strip written = "" then bad
      else
        let text := (PyText.lower (PyText.strip written)).toList.rdropWhile trailing
        match text.getLast? with
        | none => bad
        | some last =>
            let multiplier := (PyDict.get byteSuffixes last).getD 1
            let number := if (PyDict.get byteSuffixes last).isSome then text.dropLast else text
            match PyText.float number with
            | none => bad
            | some magnitude => truncate (magnitude.scale multiplier)
  | _ => bad

/-- The first unit that `text` starts with. -/
def unitAt (text : List Char) : Option (List Char × Nat) :=
  durationUnits.find? fun unit => unit.1.isPrefixOf text

/-- `int(float(number) * scale)`. -/
def partNanos (py : Builtins) (number : List Char) (scale : Nat) : Except FilterError Int := do
  let read ← readFloat py number
  truncate (read.scale scale)

/-- The scan of `_as_nanos`, with `skip` characters of a unit still to pass,
the digits of the open `number`, and the `total` so far. -/
def scanNanos (py : Builtins) (value : Json) (skip : Nat) (number : List Char) (total : Int) :
    List Char → Except FilterError Int
  | [] =>
      if number = [] then .ok total
      else .error (.valueError
        ("swarm_service_drift: duration " ++ py.repr value ++ " has no unit suffix"))
  | char :: rest =>
      if 0 < skip then scanNanos py value (skip - 1) number total rest
      else if char.isDigit || char = '.' then
        scanNanos py value 0 (number ++ [char]) total rest
      else
        let bad : Except FilterError Int :=
          .error (.valueError ("swarm_service_drift: bad duration " ++ py.repr value))
        match unitAt (char :: rest) with
        | none => bad
        | some (suffix, scale) =>
            if number = [] then bad
            else do
              let part ← partNanos py number scale
              scanNanos py value (suffix.length - 1) [] (total + part) rest

def asNanos (py : Builtins) (value : Json) : Except FilterError Int :=
  let bad : Except FilterError Int :=
    .error (.valueError ("swarm_service_drift: bad duration " ++ py.repr value))
  match value with
  | .bool _ => .error (.valueError "swarm_service_drift: duration must not be a bool")
  | .int nanos => .ok nanos
  | .str written =>
      if PyText.strip written = "" then bad
      else scanNanos py value 0 [] 0 (PyText.lower (PyText.strip written)).toList
  | _ => bad

/-- What stands before the first `@`, or the whole text. -/
def beforeAt (text : String) : String :=
  match PyText.partition '@' text.toList with
  | some (before, _) => String.ofList before
  | none => text

def stripDigest : Json → String
  | .str imageRef => beforeAt imageRef
  | _ => ""

def sameImage (py : Builtins) (live want : Json) : Bool :=
  let want := want.toText py
  if '@' ∈ want.toList then live.toText py == want
  else stripDigest live == want

def healthTest (healthCmd : String) : Json :=
  .arr [.str "CMD-SHELL", .str healthCmd]

def first : Json → Json
  | .arr (item :: _) => item
  | .obj fields => .obj fields
  | _ => .obj []

/-- `value.get(key, fallback)`. -/
def getOr (key : String) (fallback : Json) : Json → Except FilterError Json
  | .obj fields => .ok ((PyDict.get fields key).getD fallback)
  | _ => .error .attributeError

/-- `value or {}`. -/
def orEmpty (value : Json) : Json :=
  if value.truthy then value else .obj []

/-- `value.get(key, {}) or {}`. -/
def child (key : String) (value : Json) : Except FilterError Json := do
  let found ← getOr key (.obj []) value
  .ok (orEmpty found)

/-- The items a `for` goes through. -/
def iterate : Json → Except FilterError (List Json)
  | .arr items => .ok items
  | .str text => .ok (text.toList.map fun character => .str (String.ofList [character]))
  | .obj fields => .ok (fields.map fun field => .str field.1)
  | _ => .error .typeError

/-- The live constraints, which are strings. -/
def texts : List Json → Except FilterError (List String)
  | [] => .ok []
  | .str text :: rest => do
      let others ← texts rest
      .ok (text :: others)
  | _ :: _ => .error .typeError

/-- `sorted(set(present) - set(unwanted))`. -/
def sortedDifference (present unwanted : List String) : List String :=
  ((present.dedup).filter fun item => item ∉ unwanted).mergeSort fun left right => left ≤ right

/-- `if key in desired: args += [flag, str(desired[key])]`. -/
def givenFlag (py : Builtins) (desired : PyDict String Json) (key flag : String) : List String :=
  match PyDict.get desired key with
  | none => []
  | some want => [flag, want.toText py]

def healthFlags (py : Builtins) (desired : PyDict String Json) : List String :=
  givenFlag py desired "health_interval" "--health-interval" ++
    givenFlag py desired "health_retries" "--health-retries" ++
    givenFlag py desired "health_start_period" "--health-start-period"

def swarmServiceCreateArgs (py : Builtins) : Json → Except FilterError (List String)
  | .obj desired => do
      let constraints ← iterate ((PyDict.get desired "constraints").getD (.arr []))
      let given := givenFlag py desired
      .ok (given "limit_memory" "--limit-memory" ++
        given "reserve_memory" "--reserve-memory" ++
        given "stop_grace_period" "--stop-grace-period" ++
        given "update_failure_action" "--update-failure-action" ++
        given "update_monitor" "--update-monitor" ++
        given "update_max_failure_ratio" "--update-max-failure-ratio" ++
        given "update_order" "--update-order" ++
        constraints.flatMap (fun constraint => ["--constraint", constraint.toText py]) ++
        given "health_cmd" "--health-cmd" ++
        if (PyDict.get desired "health_cmd").isSome then healthFlags py desired else [])
  | _ => .error (.valueError "swarm_service_create_args: desired must be a dict")

/-- `live != read(want)`. -/
def differs (read : Json → Except FilterError Json) (live : Except FilterError Json)
    (want : Json) : Except FilterError Bool := do
  let found ← live
  let meant ← read want
  .ok (!Json.pyEq found meant)

/-- One compared field: its flag with the wanted text, if it is declared and
the live value differs. -/
def fieldDrift (py : Builtins) (desired : PyDict String Json) (key flag : String)
    (live : Except FilterError Json) (read : Json → Except FilterError Json) :
    Except FilterError (List String) :=
  match PyDict.get desired key with
  | none => .ok []
  | some want => do
      let changed ← differs read live want
      .ok (if changed then [flag, want.toText py] else [])

def bytesOf (py : Builtins) (want : Json) : Except FilterError Json :=
  Json.int <$> asBytes py want

def nanosOf (py : Builtins) (want : Json) : Except FilterError Json :=
  Json.int <$> asNanos py want

def countOf (py : Builtins) (want : Json) : Except FilterError Json :=
  Json.int <$> asInt py want

def ratioOf (py : Builtins) (want : Json) : Except FilterError Json :=
  Json.float <$> asFloat py want

def imageDrift (py : Builtins) (desired : PyDict String Json) (container : Json) :
    Except FilterError (List String) :=
  match PyDict.get desired "image" with
  | none => .ok []
  | some want => do
      let live ← getOr "Image" (.str "") container
      .ok (if sameImage py live want then [] else ["--image", want.toText py])

/-- A memory field of one part of the resources. -/
def memoryDrift (py : Builtins) (desired : PyDict String Json) (key flag part : String)
    (resources : Json) : Except FilterError (List String) := do
  let amounts ← child part resources
  fieldDrift py desired key flag (getOr "MemoryBytes" (.int 0) amounts) (bytesOf py)

/-- The ratio is compared as two floats. -/
def ratioDrift (py : Builtins) (desired : PyDict String Json) (update : Json) :
    Except FilterError (List String) :=
  fieldDrift py desired "update_max_failure_ratio" "--update-max-failure-ratio"
    (do ratioOf py (← getOr "MaxFailureRatio" (.int 0) update)) (ratioOf py)

/-- Constraints are removed and added one by one. -/
def constraintsDrift (py : Builtins) (desired : PyDict String Json) (placement : Json) :
    Except FilterError (List String) :=
  match PyDict.get desired "constraints" with
  | none => .ok []
  | some listed => do
      let found ← getOr "Constraints" .null placement
      let items ← iterate (if found.truthy then found else .arr [])
      let live ← texts items
      let wanted ← iterate listed
      let want := wanted.map fun constraint => constraint.toText py
      .ok ((sortedDifference live want).flatMap (fun item => ["--constraint-rm", item]) ++
        (sortedDifference want live).flatMap fun item => ["--constraint-add", item])

/-- `if not health_changed and key in desired: health_changed = ...`. -/
def orDiffers (desired : PyDict String Json) (changed : Bool) (key : String)
    (live : Except FilterError Json) (read : Json → Except FilterError Json) :
    Except FilterError Bool :=
  if changed then .ok true
  else
    match PyDict.get desired key with
    | none => .ok false
    | some want => differs read live want

/-- Docker replaces the whole healthcheck, so a change resends every field. -/
def healthDrift (py : Builtins) (desired : PyDict String Json) (container : Json) :
    Except FilterError (List String) :=
  match PyDict.get desired "health_cmd" with
  | none => .ok []
  | some command => do
      let health ← child "Healthcheck" container
      let test ← getOr "Test" .null health
      let changed := !Json.pyEq (if test.truthy then test else .arr [])
        (healthTest (command.toText py))
      let changed ← orDiffers desired changed "health_interval"
        (getOr "Interval" (.int 0) health) (nanosOf py)
      let changed ← orDiffers desired changed "health_retries"
        (getOr "Retries" (.int 0) health) (countOf py)
      let changed ← orDiffers desired changed "health_start_period"
        (getOr "StartPeriod" (.int 0) health) (nanosOf py)
      .ok (if changed then ["--health-cmd", command.toText py] ++ healthFlags py desired else [])

/-- The flags of all parts, one part after the other. -/
def joined : List (Except FilterError (List String)) → Except FilterError (List String)
  | [] => .ok []
  | part :: rest => do
      let flags ← part
      let others ← joined rest
      .ok (flags ++ others)

def swarmServiceDrift (py : Builtins) (inspect : Json) :
    Json → Except FilterError (List String)
  | .obj desired => do
      let spec ← child "Spec" (first inspect)
      let task ← child "TaskTemplate" spec
      let container ← child "ContainerSpec" task
      let resources ← child "Resources" task
      let update ← child "UpdateConfig" spec
      let placement ← child "Placement" task
      joined [
        imageDrift py desired container,
        memoryDrift py desired "limit_memory" "--limit-memory" "Limits" resources,
        memoryDrift py desired "reserve_memory" "--reserve-memory" "Reservations" resources,
        fieldDrift py desired "stop_grace_period" "--stop-grace-period"
          (getOr "StopGracePeriod" (.int 0) container) (nanosOf py),
        fieldDrift py desired "update_failure_action" "--update-failure-action"
          (getOr "FailureAction" (.str "") update) .ok,
        fieldDrift py desired "update_monitor" "--update-monitor"
          (getOr "Monitor" (.int 0) update) (nanosOf py),
        ratioDrift py desired update,
        fieldDrift py desired "update_order" "--update-order"
          (getOr "Order" (.str "") update) .ok,
        constraintsDrift py desired placement,
        healthDrift py desired container]
  | _ => .error (.valueError "swarm_service_drift: desired must be a dict")

end SwarmService

end Catena
