/-
  ClockDiscipline.Json.Records — the records of the daemon as JSON.

  An action is its name, and a code without an action is an object around the code. A
  span is its seconds and nanoseconds and nothing besides; nanoseconds beyond a second
  carry over, and a span whose seconds leave 64 bits cannot be read.

  Proved: (1) every record reads back as it was written.
-/

import ClockDiscipline.Calibration
import ClockDiscipline.Control
import ClockDiscipline.Json.Codec
import ClockDiscipline.Settings

namespace ClockDiscipline.Json

def phaseErrorLayout : Layout PhaseError where
  names := ["sec", "nsec"]
  values p := [encode p.sec, encode p.nsec]
  build?
    | [sec, nsec] => return ⟨← decode? sec, ← decode? nsec⟩
    | _ => none

instance : Coded PhaseError := ⟨phaseErrorLayout.write, phaseErrorLayout.read?⟩

def controlInputLayout : Layout ControlInput where
  names := ["phase_error", "valid", "lock", "temperature", "qerr", "fine_setpoint", "coarse_setpoint"]
  values i := [encode i.phase, encode i.valid, encode i.lock, encode i.temperature, encode i.qerr, encode i.fine,
    encode i.coarse]
  build?
    | [phase, valid, lock, temperature, qerr, fine, coarse] =>
      return ⟨← decode? phase, ← decode? valid, ← decode? lock, ← decode? temperature, ← decode? qerr, ← decode? fine,
        ← decode? coarse⟩
    | _ => none

instance : Coded ControlInput := ⟨controlInputLayout.write, controlInputLayout.read?⟩

/-- The action of a name. -/
def namedAction? : String → Option Action
  | "None" => some .none
  | "AdjustFine" => some .adjustFine
  | "AdjustCoarse" => some .adjustCoarse
  | "PhaseJump" => some .phaseJump
  | "Calibrate" => some .calibrate
  | _ => none

instance : Coded Action where
  encode
    | .unknown code => .ofFields [("Unknown", encode code)]
    | a => .str a.text
  decode?
    | .object [(.plain "Unknown", code)] => (decode? code).map .unknown
    | j => (unitName? j).bind namedAction?

def controlOutputLayout : Layout ControlOutput where
  names := ["action", "setpoint", "value_phase_ctrl"]
  values o := [encode o.action, encode o.setpoint, encode o.phaseShift]
  build?
    | [action, setpoint, shift] => return ⟨← decode? action, ← decode? setpoint, ← decode? shift⟩
    | _ => none

instance : Coded ControlOutput := ⟨controlOutputLayout.write, controlOutputLayout.read?⟩

def planLayout : Layout Calibration.Plan where
  names := ["ctrl_points", "nb_calibration"]
  values p := [encode p.points, encode p.samples]
  build?
    | [points, samples] => return ⟨← decode? points, ← decode? samples⟩
    | _ => none

instance : Coded Calibration.Plan := ⟨planLayout.write, planLayout.read?⟩

def resultsLayout : Layout Calibration.Results where
  names := ["measures"]
  values r := [encode r.rows]
  build?
    | [rows] => return ⟨← decode? rows⟩
    | _ => none

instance : Coded Calibration.Results := ⟨resultsLayout.write, resultsLayout.read?⟩

def polarityText : Polarity → String
  | .normal => "Normal"
  | .opposite => "Opposite"

def namedPolarity? : String → Option Polarity
  | "Normal" => some .normal
  | "Opposite" => some .opposite
  | _ => none

instance : Coded Polarity where
  encode p := .str (polarityText p)
  decode? j := (unitName? j).bind namedPolarity?

def spanLayout : Layout Span where
  names := ["secs", "nanos"]
  values s := [encode s.secs, encode s.nanos]
  build?
    | [secs, nanos] => do Span.ofParts? (← decode? secs) (← decode? nanos)
    | _ => none

instance : Coded Span where
  encode := spanLayout.write
  decode? j := if hasStrangers spanLayout.names j then none else spanLayout.read? j

def settingsLayout : Layout Settings where
  names := ["turns", "pps_device", "polarity", "debug", "libod_config_path", "pps_timeout", "cycle_delay"]
  values s := [encode s.turns, encode s.ppsDevice, encode s.polarity, encode s.debug, encode s.engineConfig,
    encode s.ppsTimeout, encode s.cycleDelay]
  build?
    | [turns, ppsDevice, polarity, debug, engineConfig, ppsTimeout, cycleDelay] =>
      return ⟨← decode? turns, ← decode? ppsDevice, ← decode? polarity, ← decode? debug, ← decode? engineConfig,
        ← decode? ppsTimeout, ← decode? cycleDelay⟩
    | _ => none

instance : Coded Settings := ⟨settingsLayout.write, settingsLayout.read?⟩

/-! ## (1) Reading back -/

theorem decode?_encode_phaseError (p : PhaseError) : decode? (encode p) = some p :=
  phaseErrorLayout.read?_write (by decide) p rfl (by
    simp [phaseErrorLayout, decode?_encode_int64])

theorem decode?_encode_controlInput (i : ControlInput) : decode? (encode i) = some i :=
  controlInputLayout.read?_write (by decide) i rfl (by
    simp [controlInputLayout, decode?_encode_phaseError, decode?_encode_bool, decode?_encode_uint16, decode?_encode_int32,
      decode?_encode_uint32])

theorem decode?_encode_action (a : Action) : decode? (encode a) = some a := by
  cases a with
  | unknown code =>
    change (decode? (encode code)).map Action.unknown = _
    rw [decode?_encode_uint32, Option.map_some]
  | _ => rfl

theorem decode?_encode_controlOutput (o : ControlOutput) : decode? (encode o) = some o :=
  controlOutputLayout.read?_write (by decide) o rfl (by
    simp [controlOutputLayout, decode?_encode_action, decode?_encode_uint32, decode?_encode_int32])

theorem decode?_encode_plan (p : Calibration.Plan) : decode? (encode p) = some p :=
  planLayout.read?_write (by decide) p rfl (by
    simp [planLayout, decode?_encode_list, decode?_encode_uint32])

theorem decode?_encode_results (r : Calibration.Results) : decode? (encode r) = some r :=
  resultsLayout.read?_write (by decide) r rfl (by
    simp [resultsLayout, decode?_encode_list, decode?_encode_int64])

theorem decode?_encode_polarity (p : Polarity) : decode? (encode p) = some p := by
  cases p <;> rfl

theorem decode?_encode_span (s : Span) : decode? (encode s) = some s := by
  change (if hasStrangers spanLayout.names (spanLayout.write s) then none else spanLayout.read? (spanLayout.write s)) = some s
  rw [if_neg (by simp [spanLayout, Layout.write, hasStrangers, ofFields])]
  exact spanLayout.read?_write (by decide) s rfl (by
    simp [spanLayout, decode?_encode_uint64, decode?_encode_uint32, Span.ofParts?_self])

theorem decode?_encode_settings (s : Settings) : decode? (encode s) = some s :=
  settingsLayout.read?_write (by decide) s rfl (by
    simp [settingsLayout, decode?_encode_uint32, decode?_encode_string, decode?_encode_polarity, decode?_encode_bool,
      decode?_encode_span])

end ClockDiscipline.Json
