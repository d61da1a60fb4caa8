import MaxPatch.Device.Save
import MaxPatch.Files.Tree

/-! # Sessions: building a device call by call

A session is a device together with the files it is saved among. A call is a value, so what is done
to a device is a list of calls; `Session.perform` gives the answer to a call and the session after
it, with what the call has to report. The calls that only look at the device, or write down what it
is, are its observations. -/

namespace MaxPatch

/-- A call on a device. -/
inductive DeviceCall where
  | add (typeName args : String)
  | addWith (typeName : String) (contract : Contract) (args : String)
  | comment (text : String)
  | message (text : String)
  | ensureContext
  | addParameter (name : String) (options : ParameterOptions)
  | connect (source destination : Endpoint)
  | chain (items : List Endpoint)
  | describe (text : String)
  | tag (text : String)
  | register (typeName : String) (contract : Contract)
  | suspicions
  | finalize
  | serialize
  | save (options : SaveOptions)

namespace DeviceCall

/-- What a device answers to a call. A call whose arithmetic overflows stops the program; its answer
here is `overflow`, and all stays as it was. -/
inductive Answer where
  | done
  | handle (h : Handle)
  | parameter (p : Parameter)
  | cord (result : Except PatchError Nat)
  | chained (result : Except PatchError Unit)
  | suspicions (found : List Suspicion)
  | document (result : Except PatchError Document)
  | text (result : Except PatchError String)
  | saved (result : Except DeviceError String)
  | overflow

/-- The handle that an answer gives. -/
def Answer.handle? : Answer → Option Handle
  | handle h => some h
  | _ => none

/-- Whether a call only looks at the device or writes down what it is. -/
def isObservation : DeviceCall → Bool
  | suspicions | finalize | serialize | save _ => true
  | _ => false

end DeviceCall

/-- A device, the files it is saved among, and the home directory. -/
structure Session where
  device : Device
  files : FileTree
  home : String

namespace Session

/-- The session in which a device is begun. -/
def start (name : String) (kind : DeviceKind) (catalog : Catalog) (files : FileTree)
    (home : String) : Noted Session := do
  return { device := ← Device.create name kind catalog, files, home }

/-- The answer from a value, and the session with the device that came with it. -/
def reply {α : Type} (s : Session) (answer : α → DeviceCall.Answer) (result : Noted (α × Device)) :
    Noted (DeviceCall.Answer × Session) := do
  let (a, device) ← result
  return (answer a, { s with device })

/-- The answer from a box that was added, if it was, and the session with the device that came with
it. -/
def replyBox (s : Session) (result : Noted (Option (Handle × Device))) :
    Noted (DeviceCall.Answer × Session) := do
  match ← result with
  | some (h, device) => return (.handle h, { s with device })
  | none => return (.overflow, s)

/-- The answer to a call and the session after it. -/
def perform (s : Session) : DeviceCall → Noted (DeviceCall.Answer × Session)
  | .add typeName args => s.replyBox (s.device.add? typeName args)
  | .addWith typeName contract args =>
    s.replyBox (pure (s.device.addWith? typeName contract args []))
  | .comment text => s.reply .handle (s.device.comment text)
  | .message text => s.reply .handle (s.device.message text)
  | .ensureContext => s.reply .handle s.device.ensureContext
  | .addParameter name options => s.reply .parameter (pure (s.device.addParameter name options))
  | .connect source destination =>
    match s.device.connect source destination with
    | .ok (number, d) => s.reply .cord (pure (.ok number, d))
    | .error e => s.reply .cord (pure (.error e, s.device))
  | .chain items => s.reply .chained (pure (s.device.chain items))
  | .describe text => s.reply (fun _ => .done) (pure ((), s.device.describe text))
  | .tag text => s.reply (fun _ => .done) (pure ((), s.device.tag text))
  | .register typeName contract =>
    s.reply (fun _ => .done) (pure ((), s.device.register typeName contract))
  | .suspicions => s.reply .suspicions (pure (s.device.suspicions, s.device))
  | .finalize => s.reply .document s.device.finalize
  | .serialize => s.reply .text s.device.serialize
  | .save options =>
    let saving : StateM FileTree (Noted (Except DeviceError String × Device)) :=
      s.device.save s.home options
    let (result, files) := saving s.files
    { s with files }.reply .saved result

/-- The session after a call. -/
def next (s : Session) (c : DeviceCall) : Session := (s.perform c).value.2

/-- The answer to a call. -/
def answer (s : Session) (c : DeviceCall) : DeviceCall.Answer := (s.perform c).value.1

/-- The session after calls. -/
def after (s : Session) (calls : List DeviceCall) : Session := calls.foldl next s

end Session

end MaxPatch
