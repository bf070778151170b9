import Fieldbus.Bus.Fault
import Fieldbus.Device.Path

/-!
# Addresses of sockets

A socket is attached to an address of the form `scheme://place`. The place of `ipc` is a file, that
of `tcp` a host and a port, that of `inproc` a name.

* `Url.ofText?`: the two parts of an address.
* `Url.attach`: whether a socket can be attached to an address.
-/

namespace Fieldbus

/-- An address of a socket. -/
structure Url where
  scheme : String
  place : String
  deriving DecidableEq, Repr

namespace Url

/-- Splits a text at the first `://`. -/
def split? : List Char → List Char → Option (List Char × List Char)
  | _, [] => none
  | before, ':' :: '/' :: '/' :: after => some (before.reverse, after)
  | before, c :: cs => split? (c :: before) cs

/-- Reads an address. Neither part may be empty. -/
def ofText? (s : String) : Option Url :=
  match split? [] s.toList with
  | some (scheme, place) =>
    if scheme.isEmpty || place.isEmpty then none
    else some ⟨String.ofList scheme, String.ofList place⟩
  | none => none

/-- The value of a text of decimal digits. -/
def decimal? (cs : List Char) : Option Nat :=
  if cs.isEmpty || !cs.all Char.isDigit then none
  else some (cs.foldl (fun n c => 10 * n + (c.toNat - '0'.toNat)) 0)

/-- The port in a place: what follows its last colon. -/
def port? (place : String) : Option Nat :=
  let cs := place.toList.reverse
  if cs.contains ':' then
    match decimal? (cs.takeWhile fun c => c ≠ ':').reverse with
    | some n => if n < 65536 then some n else none
    | none => none
  else none

/-- The directory that a file is in: what precedes its last slash. -/
def directory (file : String) : String :=
  String.ofList ((file.toList.reverse.dropWhile fun c => c ≠ '/').drop 1).reverse

/-- Whether a socket can be attached to an address. A file can be made only in a
directory that there is. -/
def accepts (isDirectory : String → Bool) (how : Attachment) (u : Url) : Bool :=
  match u.scheme with
  | "inproc" => true
  | "tcp" => (port? u.place).isSome
  | "ipc" =>
    match how with
    | .connect => true
    | .bind => isDirectory (directory u.place)
  | _ => false

/-- Attaches a socket to an address, if it can be. -/
def attach (isDirectory : String → Bool) (how : Attachment) (url : String) : Except BusError Unit :=
  match ofText? url with
  | none => .error (.unattached how url)
  | some u => if accepts isDirectory how u then .ok () else .error (.unattached how url)

/-- Connects a socket to an address, if it can be; whether anybody is there does not matter. -/
def connect (url : String) : Except BusError Unit := attach (fun _ => true) .connect url

end Url

end Fieldbus
