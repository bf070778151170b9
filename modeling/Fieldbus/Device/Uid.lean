import Fieldbus.Device.Path
import Fieldbus.Text.Utf8

/-!
# Uids from device paths

A port that is not given a uid takes one from its device.

* `uidChar`: lower-case letters and digits stay, everything else becomes an underscore.
* `deviceUid`: the last component of the path, or all of it if there is none, made to fit.
-/

namespace Fieldbus

/-- A character of a uid. -/
def uidChar (c : Char) : Char :=
  if c.toLower.isAlphanum then c.toLower else '_'

/-- The uid of a device. -/
def deviceUid (path : Bytes) : String :=
  let name := (Path.fileName? path).getD path
  String.ofList ((Utf8.lossy name).toList.map uidChar)

end Fieldbus
