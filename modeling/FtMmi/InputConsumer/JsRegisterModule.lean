/-
FtMmi.InputConsumer.JsRegisterModule — key subscriptions of an application
written in JavaScript (`js_register_module.cpp`, `js_register_util.cpp`).

A JavaScript value is what is read of it: a number is the integer that
`napi_get_value_int32` makes of it, an object its properties, a function
its identity. The calls of the engine succeed on values of the right type,
and `napi_get_reference_value` fails where there is no reference.

The module keeps the callbacks by the text of their option. All callbacks
of an option share one subscription of the client.
-/
import FtMmi.Client.KeyEventInputSubscribeManager
import FtMmi.Lib.OrderedKeys

namespace FtMmi.InputConsumer

open FtMmi.Client
open FtMmi.Event
open FtMmi.KeySubscriber
open FtMmi.Lib

/-! ## JavaScript values -/

inductive JsValue where
  | undefined
  | null
  | boolean (value : Bool)
  | number (value : Int32)
  | string (value : String)
  | object (properties : List (String × JsValue))
  | array (elements : List JsValue)
  | function (ref : Nat)

/-- Why a call gives nothing: it throws an error of the code and the texts, or
returns without one. -/
inductive JsFailure where
  | thrown (errorCode : Int) (texts : List String)
  | quiet
  deriving DecidableEq

def commonParameterError : Int := 401

def parameterError (texts : List String) : JsFailure := .thrown commonParameterError texts

namespace JsValue

/-- What `napi_typeof` takes for a string. -/
def isString : JsValue → Bool
  | .string _ => true
  | _ => false

/-- What `napi_typeof` takes for an object. -/
def isObject : JsValue → Bool
  | .object _ => true
  | .array _ => true
  | _ => false

/-- `napi_get_named_property` -/
def namedProperty (value : JsValue) (name : String) : JsValue :=
  match value with
  | .object properties => (properties.lookup name).getD .undefined
  | _ => .undefined

/-- The bytes that `napi_get_value_string_utf8` writes, up to the first zero, are
those of `type`. -/
def isText (value : JsValue) (type : String) : Bool :=
  match value with
  | .string text => text.toList.takeWhile (fun c => c.toNat ≠ 0) = type.toList
  | _ => false

def getNamedPropertyBool (object : JsValue) (name : String) : Except JsFailure Bool :=
  match object.namedProperty name with
  | .boolean value => .ok value
  | _ => .error (parameterError [name, "bool"])

def getNamedPropertyInt32 (object : JsValue) (name : String) : Except JsFailure Int32 :=
  match object.namedProperty name with
  | .number value => .ok value
  | _ => .error (parameterError [name, "number"])

end JsValue

/-- The loop of `GetPreKeys`. -/
def insertPreKeys : List JsValue → Finset Int32 → Except JsFailure (Finset Int32)
  | [], params => .ok params
  | .number value :: elements, params =>
      if value < 0 then
        .error (parameterError ["element of preKeys must be greater than or equal to 0"])
      else if value ∈ params then .error .quiet
      else insertPreKeys elements (insert value params)
  | _ :: _, _ => .error (parameterError ["element of preKeys must be number"])

def getPreKeys : JsValue → Except JsFailure (Finset Int32)
  | .array elements => insertPreKeys elements ∅
  | _ => .error .quiet

/-! ## The arguments of `on` and `off` -/

def preKeysSize : Nat := 4

/-- The text of an option, under which its callbacks are kept. -/
def subKeyNames (keyOption : KeyOption) : String :=
  (keyOption.preKeys.sort.map Int32.toInt).foldl
      (fun names item => names ++ (toString item ++ ",")) ""
    ++ toString keyOption.finalKey.toInt ++ ","
    ++ toString (if keyOption.isFinalKeyDown then 1 else 0 : Int) ++ ","
    ++ toString keyOption.finalKeyDownDuration.toInt

/-- What `GetEventInfoAPI9` reads of the arguments. There may be no callback. -/
structure EventInfo where
  eventType : String
  callback : Option Nat
  keyOption : KeyOption

/-- An error of the parameters is thrown unless the condition holds. -/
def require (condition : Bool) (texts : List String) : Except JsFailure Unit :=
  if condition then .ok () else .error (parameterError texts)

/-- The third argument, if the call has three. -/
def getCallback (args : List JsValue) : Except JsFailure (Option Nat) :=
  if args.length = 3 then
    match args.getD 2 .undefined with
    | .function ref => .ok (some ref)
    | _ => .error (parameterError ["callback", "function"])
  else .ok none

def getEventInfoAPI9 (args : List JsValue) : Except JsFailure EventInfo := do
  let type := args.getD 0 .undefined
  let option := args.getD 1 .undefined
  require type.isString ["type", "string"]
  require option.isObject ["keyOptions", "object"]
  require (type.isText "key") ["type must be key"]
  let preKeys ← getPreKeys (option.namedProperty "preKeys")
  require (preKeys.card ≤ preKeysSize) ["preKeys size invalid"]
  let finalKey ← option.getNamedPropertyInt32 "finalKey"
  require (0 ≤ finalKey) ["finalKey must be greater than or equal to 0"]
  let isFinalKeyDown ← option.getNamedPropertyBool "isFinalKeyDown"
  let finalKeyDownDuration ← option.getNamedPropertyInt32 "finalKeyDownDuration"
  require (0 ≤ finalKeyDownDuration) ["finalKeyDownDuration must be greater than or equal to 0"]
  let keyOption : KeyOption :=
    { preKeys, finalKey, isFinalKeyDown, finalKeyDownDuration, finalKeyUpDelay := 0 }
  let callback ← getCallback args
  pure ⟨subKeyNames keyOption, callback, keyOption⟩

/-! ## Callbacks -/

/-- A callback that is registered. -/
structure KeyEventMonitorInfo where
  callback : Nat
  subscribeId : Int32
  keyOption : KeyOption

/-- The lists of callbacks, in the order of the texts. -/
abbrev Callbacks := List (String × List KeyEventMonitorInfo)

namespace Callbacks

def jsCallbackEventFailed : Int32 := -1

def jsCallbackEventSuccess : Int32 := 1

/-- The list under a text is written to. -/
def write (callbacks : Callbacks) (eventType : String) (infos : List KeyEventMonitorInfo) :
    Callbacks :=
  callbacks.map fun entry => if entry.1 = eventType then (eventType, infos) else entry

def getPreSubscribeId (callbacks : Callbacks) (event : EventInfo) : Int32 :=
  match callbacks.lookup event.eventType with
  | some (info :: _) => info.subscribeId
  | _ => jsCallbackEventFailed

def addEventCallback (callbacks : Callbacks) (event : EventInfo) (subscribeId : Int32) :
    Int32 × Callbacks :=
  let callbacks : Callbacks := emplaceBy Prod.fst callbacks (event.eventType, [])
  match event.callback with
  | none => (jsCallbackEventFailed, callbacks)
  | some ref =>
      let infos := (callbacks.lookup event.eventType).getD []
      if infos.any fun info => info.callback = ref then (jsCallbackEventFailed, callbacks)
      else
        (jsCallbackEventSuccess,
          callbacks.write event.eventType (infos ++ [⟨ref, subscribeId, event.keyOption⟩]))

/-- The result, the subscription that has no callback any more, and the callbacks.
Without a callback to look for, all of the list go. -/
def delEventCallback (callbacks : Callbacks) (event : EventInfo) : Int32 × Int32 × Callbacks :=
  match callbacks.lookup event.eventType with
  | none => (jsCallbackEventFailed, -1, callbacks)
  | some infos =>
      match event.callback with
      | none =>
          (jsCallbackEventSuccess, (infos.getLast?.map KeyEventMonitorInfo.subscribeId).getD (-1),
            callbacks.write event.eventType [])
      | some ref =>
          match infos.find? fun info => info.callback = ref with
          | none => (jsCallbackEventSuccess, -1, callbacks)
          | some info =>
              let rest := infos.eraseP fun info => info.callback = ref
              (jsCallbackEventSuccess, if rest.isEmpty then info.subscribeId else -1,
                callbacks.write event.eventType rest)

end Callbacks

/-! ## `on` and `off` -/

/-- The module in a process, with the client it works through. -/
structure JsRegisterModule where
  callbacks : Callbacks
  subscription : Subscription

namespace JsRegisterModule

def jsOn (s : JsRegisterModule) (pid : Int) (call : SubscribeCall) (args : List JsValue) :
    Except JsFailure Unit × JsRegisterModule :=
  if args.length < 3 then (.error (parameterError ["parameter number error"]), s)
  else
    match getEventInfoAPI9 args with
    | .error failure => (.error failure, s)
    | .ok event =>
        let preSubscribeId := s.callbacks.getPreSubscribeId event
        let r :=
          if preSubscribeId < 0 then
            s.subscription.subscribeKeyEvent pid call event.keyOption
          else (preSubscribeId, s.subscription)
        if r.1 < 0 then (.error .quiet, { s with subscription := r.2 })
        else
          let added := s.callbacks.addEventCallback event r.1
          (if added.1 < 0 then .error .quiet else .ok (), ⟨added.2, r.2⟩)

def jsOff (s : JsRegisterModule) (pid : Int) (call : SubscribeCall) (args : List JsValue) :
    Except JsFailure Unit × JsRegisterModule :=
  if args.length < 2 then (.error (parameterError ["parameter number error"]), s)
  else
    match getEventInfoAPI9 args with
    | .error failure => (.error failure, s)
    | .ok event =>
        let deleted := s.callbacks.delEventCallback event
        if deleted.1 < 0 then (.error .quiet, { s with callbacks := deleted.2.2 })
        else if 0 ≤ deleted.2.1 then
          (.ok (),
            ⟨deleted.2.2, (s.subscription.unsubscribeKeyEvent pid call deleted.2.1).2⟩)
        else (.ok (), { s with callbacks := deleted.2.2 })

end JsRegisterModule

/-! ## Key events -/

def isMatchKeyAction (isFinalKeydown : Bool) (keyAction : Int32) : Bool :=
  if isFinalKeydown ∧ keyAction = keyActionDown then true
  else if !isFinalKeydown ∧ keyAction = keyActionUp then true
  else false

def matchCombinationKeys (keyOption : KeyOption) (keyEvent : KeyEvent) : Bool :=
  let items := keyEvent.keys
  if keyOption.finalKey ≠ keyEvent.keyCode ∨ preKeysSize < items.length ∨
      !isMatchKeyAction keyOption.isFinalKeyDown keyEvent.keyAction then false
  else
    let infoSize := (keyOption.preKeys.filter fun preKey => 0 ≤ preKey).card
    let others := items.filter fun item => item.keyCode ≠ keyEvent.keyCode
    if others.any fun item => item.keyCode ∉ keyOption.preKeys then false
    else
      match keyEvent.getKeyItem keyEvent.keyCode with
      | none => false
      | some keyItem =>
          if 0 < keyOption.finalKeyDownDuration ∧
              keyOption.finalKeyDownDuration.toInt64 * 1000
                ≤ keyEvent.actionTime - keyItem.downTime then false
          else others.length = infoSize

/-- `SubKeyEventCallback`, which is the callback of every subscription: the
callbacks that are called. -/
def subKeyEventCallback (callbacks : Callbacks) (keyEvent : KeyEvent) : List KeyEventMonitorInfo :=
  callbacks.flatMap fun entry =>
    entry.2.filter fun info => matchCombinationKeys info.keyOption keyEvent

/-- `OnSubscribeKeyEventCallback` of the manager. -/
def onSubscribeKeyEventCallback (s : JsRegisterModule) (keyEvent : KeyEvent)
    (subscribeId : Int32) : List KeyEventMonitorInfo :=
  if subscribeId < 0 then []
  else
    match s.subscription.manager.subscribeInfos.find? fun info =>
        info.subscribeId = subscribeId with
    | none => []
    | some _ => subKeyEventCallback s.callbacks keyEvent

end FtMmi.InputConsumer
