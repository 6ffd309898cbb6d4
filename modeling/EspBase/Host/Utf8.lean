import EspBase.Config.Utf8
import EspBase.Host.Configuration

set_option autoImplicit false

namespace EspBase

open Unicode

theorem utf8_encode (ssid : Bool) (s : Text) (bytes : List UInt8) (encoded : encode s = some bytes) :
    utf8 bytes ssid = s.all (fun c => pointAllowed ssid c.val) := by
  obtain ⟨chars, rfl, rfl⟩ := (encode_eq_some_iff s bytes).mp encoded
  rw [utf8, utf8Loop_chars ssid chars _ le_rfl, List.all_map]
  rfl

end EspBase
