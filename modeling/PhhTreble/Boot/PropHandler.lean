import PhhTreble.Boot.Selector
import PhhTreble.Lib.Triggers
/-!
# The property handler

phh-prop-handler.sh, with the triggers of vndk.rc that run it and the two that copy
a property into one that can be set again. init serves one trigger after the other.
The two handlers that bind mounts and the triggers that copy into a `ro.` property,
which is set once, are not modelled, and neither is what the kernel makes of a node.
-/

namespace PhhTreble.Boot.PropHandler

/-! ## The triggers -/

/-- The properties of the triggers. -/
inductive Key where
  | mainkeys | enableSfGlBackpressure
  | asusDt2w | asusUsbPort | xiaomiDt2w | oppoDt2w | oppoGamingMode | oppoUsbotg | transsionUsbotg | transsionDt2w
  | allowBinderThread | disableAudioEffects | vsmartDt2w | backlightScale | systemAudioHal
deriving DecidableEq, Repr

def Key.name : Key → String
  | mainkeys => "persist.sys.phh.mainkeys"
  | enableSfGlBackpressure => "persist.sys.phh.enable_sf_gl_backpressure"
  | asusDt2w => "persist.sys.phh.asus.dt2w"
  | asusUsbPort => "persist.sys.phh.asus.usb.port"
  | xiaomiDt2w => "persist.sys.phh.xiaomi.dt2w"
  | oppoDt2w => "persist.sys.phh.oppo.dt2w"
  | oppoGamingMode => "persist.sys.phh.oppo.gaming_mode"
  | oppoUsbotg => "persist.sys.phh.oppo.usbotg"
  | transsionUsbotg => "persist.sys.phh.transsion.usbotg"
  | transsionDt2w => "persist.sys.phh.transsion.dt2w"
  | allowBinderThread => "persist.sys.phh.allow_binder_thread_on_incoming_calls"
  | disableAudioEffects => "persist.sys.phh.disable_audio_effects"
  | vsmartDt2w => "persist.sys.phh.vsmart.dt2w"
  | backlightScale => "persist.sys.phh.backlight.scale"
  | systemAudioHal => "persist.bluetooth.system_audio_hal.enabled"

/-- What a handler writes: a property, the text of a node, the event last sent to
an input device, and a mode of `/dev/xiaomi-touch`. -/
inductive Loc where
  | prop (name : String)
  | node (path : String)
  | input (ev : String)
  | touch (mode : Nat)
deriving DecidableEq, Repr

/-- The device that the script runs on. -/
structure Device where
  /-- The files that are there. -/
  file : String → Bool
  /-- The text of a file. -/
  cat : String → List Char
  /-- `event*`. -/
  events : List String
  isTouchscreen : String → Bool
  /-- The path that `find` prints. -/
  otgPath : Option {path : String // "tran_battery/OTG_CTL".toList <:+ path.toList}
  /-- `/dev/xiaomi-touch` is there. -/
  xiaomiTouch : Bool
  /-- The service that `sed` finds. -/
  audioHal : String

/-- A property that is not there is `none`. -/
abbrev Assignment := Loc × Option Value

abbrev Response := Triggers.Response Loc (Option Value) String

def setprop (name : String) (value : Value) : Assignment := (.prop name, some value)

/-- `resetprop_phh --delete`. -/
def deleteprop (name : String) : Assignment := (.prop name, none)

/-- `echo … >path`. It makes no node. -/
def Device.echo (d : Device) (path : String) (value : Value) : List Assignment :=
  if d.file path then [(.node path, some value)] else []

def assigns (as : List Assignment) : Response := ⟨as, []⟩

/-! ## The handlers -/

/-- A handler whose values are `0` and `1`. -/
def onOff (prop_value : Value) (as : List Assignment) : List Assignment :=
  if prop_value ≠ "0".toList ∧ prop_value ≠ "1".toList then [] else as

def dt2wProcNodes : List String :=
  ["/proc/touchpanel/wakeup_gesture", "/proc/tp_wakeup_gesture", "/proc/tp_gesture"]

def Device.xiaomiToggleDt2wProcNode (d : Device) (value : Value) : List Assignment :=
  match dt2wProcNodes.find? d.file with
  | some node => d.echo node value
  | none => []

def Device.xiaomiToggleDt2wEventNode (d : Device) (value : Value) : List Assignment :=
  let skipped (ev : String) :=
    !d.file ("/sys/class/input/" ++ ev ++ "/device/device/gesture_mask") &&
      !d.file ("/sys/class/input/" ++ ev ++ "/device/wake_gesture") && !d.isTouchscreen ev
  match d.events.find? fun ev => !skipped ev with
  | some ev => [(.input ev, some (if value = "1".toList then "5".toList else "4".toList))]
  | none => []

def Device.xiaomiToggleDt2wIoctl (d : Device) (value : Value) : List Assignment :=
  if d.xiaomiTouch then [(.touch 14, some value)] else []

def Device.restartAudio (d : Device) : List String :=
  ["audioserver", d.audioHal, "vendor.audio-hal-2-0", "audio-hal-2-0"]

def Device.oppoUsbotgNode (d : Device) : String :=
  if d.file "/sys/class/power_supply/usb/otg_switch" then "/sys/class/power_supply/usb/otg_switch"
  else "/sys/class/oplus_chg/usb/otg_switch"

def maxBrightnessNodes : List String :=
  ["/sys/class/leds/lcd-backlight/max_brightness", "/sys/class/backlight/panel0-backlight/max_brightness",
    "/sys/class/backlight/sprd_backlight/max_brightness"]

def Device.backlightScale (d : Device) (prop_value : Value) : List Assignment :=
  if prop_value = "1".toList then
    match maxBrightnessNodes.find? d.file with
    | some node => [setprop "persist.sys.qcom-brightness" (Text.chomp (d.cat node))]
    | none => []
  else [setprop "persist.sys.qcom-brightness" "-1".toList]

def Device.systemAudioHal (d : Device) (prop_value : Value) : Response :=
  -- Migrate from 0/1 to false/true first
  if prop_value = "0".toList then assigns [setprop "persist.bluetooth.system_audio_hal.enabled" "false".toList]
  else if prop_value = "1".toList then assigns [setprop "persist.bluetooth.system_audio_hal.enabled" "true".toList]
  else if prop_value ≠ "false".toList ∧ prop_value ≠ "true".toList then assigns []
  else if prop_value = "true".toList then
    ⟨[setprop "persist.bluetooth.bluetooth_audio_hal.disabled" "false".toList,
      setprop "persist.bluetooth.a2dp_offload.disabled" "true".toList,
      setprop "ro.bluetooth.a2dp_offload.supported" "false".toList], d.restartAudio⟩
  else
    ⟨[deleteprop "persist.bluetooth.bluetooth_audio_hal.disabled", deleteprop "persist.bluetooth.a2dp_offload.disabled",
      deleteprop "ro.bluetooth.a2dp_offload.supported"], d.restartAudio⟩

/-- `setprop name ${…}`, which fails where there is nothing to expand. -/
def copied (name : String) (value : Value) : Response := assigns (if value = [] then [] else [setprop name value])

/-- A run of phh-prop-handler.sh, or the command of the trigger. -/
def Device.handle (d : Device) (k : Key) (value : Option Value) : Response :=
  let prop_value := got (value.getD [])
  match k with
  | .mainkeys => copied "qemu.hw.mainkeys" (value.getD [])
  | .enableSfGlBackpressure => copied "debug.sf.enable_gl_backpressure" (value.getD [])
  | .asusDt2w =>
    assigns (onOff prop_value [setprop "persist.asus.dclick" (if prop_value = "1".toList then "1".toList else "0".toList)])
  | .asusUsbPort => assigns [setprop "persist.vendor.usb.controller.default" prop_value]
  | .xiaomiDt2w =>
    assigns (onOff prop_value (d.xiaomiToggleDt2wProcNode prop_value ++ d.xiaomiToggleDt2wEventNode prop_value ++
      d.xiaomiToggleDt2wIoctl prop_value))
  | .oppoDt2w => assigns (onOff prop_value (d.echo "/proc/touchpanel/double_tap_enable" prop_value))
  | .oppoGamingMode => assigns (onOff prop_value (d.echo "/proc/touchpanel/game_switch_enable" prop_value))
  | .oppoUsbotg => assigns (onOff prop_value (d.echo d.oppoUsbotgNode prop_value))
  | .transsionUsbotg =>
    assigns (onOff prop_value (match d.otgPath with
      | some path => [(.node path, some prop_value)]
      | none => []))
  | .transsionDt2w =>
    assigns (if prop_value ≠ "1".toList ∧ prop_value ≠ "2".toList then []
      else d.echo "/proc/gesture_function" ("cc".toList ++ prop_value))
  | .allowBinderThread =>
    assigns (onOff prop_value [if prop_value = "1".toList then
        setprop "ro.telephony.block_binder_thread_on_incoming_calls" "false".toList
      else deleteprop "ro.telephony.block_binder_thread_on_incoming_calls"])
  | .disableAudioEffects =>
    if prop_value ≠ "0".toList ∧ prop_value ≠ "1".toList then assigns []
    else
      ⟨[if prop_value = "1".toList then setprop "ro.audio.ignore_effects" "true".toList
        else deleteprop "ro.audio.ignore_effects"], d.restartAudio⟩
  | .vsmartDt2w =>
    assigns (onOff prop_value (d.echo "/sys/class/vsm/tp/gesture_control"
      (if prop_value = "1".toList then "0".toList else [])))
  | .backlightScale => assigns (onOff prop_value (d.backlightScale prop_value))
  | .systemAudioHal => d.systemAudioHal prop_value

/-! ## Who writes what -/

/-- A property of a trigger, or one that a handler sets. -/
inductive Role where
  | key | setting
deriving DecidableEq, Repr

def props : List (String × Key × Role) :=
  [("persist.sys.phh.mainkeys", .mainkeys, .key),
    ("qemu.hw.mainkeys", .mainkeys, .setting),
    ("persist.sys.phh.enable_sf_gl_backpressure", .enableSfGlBackpressure, .key),
    ("debug.sf.enable_gl_backpressure", .enableSfGlBackpressure, .setting),
    ("persist.sys.phh.asus.dt2w", .asusDt2w, .key),
    ("persist.asus.dclick", .asusDt2w, .setting),
    ("persist.sys.phh.asus.usb.port", .asusUsbPort, .key),
    ("persist.vendor.usb.controller.default", .asusUsbPort, .setting),
    ("persist.sys.phh.xiaomi.dt2w", .xiaomiDt2w, .key),
    ("persist.sys.phh.oppo.dt2w", .oppoDt2w, .key),
    ("persist.sys.phh.oppo.gaming_mode", .oppoGamingMode, .key),
    ("persist.sys.phh.oppo.usbotg", .oppoUsbotg, .key),
    ("persist.sys.phh.transsion.usbotg", .transsionUsbotg, .key),
    ("persist.sys.phh.transsion.dt2w", .transsionDt2w, .key),
    ("persist.sys.phh.allow_binder_thread_on_incoming_calls", .allowBinderThread, .key),
    ("ro.telephony.block_binder_thread_on_incoming_calls", .allowBinderThread, .setting),
    ("persist.sys.phh.disable_audio_effects", .disableAudioEffects, .key),
    ("ro.audio.ignore_effects", .disableAudioEffects, .setting),
    ("persist.sys.phh.vsmart.dt2w", .vsmartDt2w, .key),
    ("persist.sys.phh.backlight.scale", .backlightScale, .key),
    ("persist.sys.qcom-brightness", .backlightScale, .setting),
    ("persist.bluetooth.system_audio_hal.enabled", .systemAudioHal, .key),
    ("persist.bluetooth.bluetooth_audio_hal.disabled", .systemAudioHal, .setting),
    ("persist.bluetooth.a2dp_offload.disabled", .systemAudioHal, .setting),
    ("ro.bluetooth.a2dp_offload.supported", .systemAudioHal, .setting)]

def nodes : List (String × Key) :=
  dt2wProcNodes.map (·, .xiaomiDt2w) ++
    [("/proc/touchpanel/double_tap_enable", .oppoDt2w),
      ("/proc/touchpanel/game_switch_enable", .oppoGamingMode),
      ("/sys/class/power_supply/usb/otg_switch", .oppoUsbotg),
      ("/sys/class/oplus_chg/usb/otg_switch", .oppoUsbotg),
      ("/proc/gesture_function", .transsionDt2w),
      ("/sys/class/vsm/tp/gesture_control", .vsmartDt2w)]

/-- The handler that a location belongs to, and whether it is the property that
triggers it. -/
def role : Loc → Option (Key × Role)
  | .prop name => props.lookup name
  | .node path =>
    if "tran_battery/OTG_CTL".toList <:+ path.toList then some (.transsionUsbotg, .setting)
    else (nodes.lookup path).map (·, .setting)
  | .input _ => some (.xiaomiDt2w, .setting)
  | .touch _ => some (.xiaomiDt2w, .setting)

theorem role_name (k : Key) : role (.prop k.name) = some (k, .key) := by cases k <;> decide

theorem mem_onOff {prop_value : Value} {as : List Assignment} {a : Assignment} (h : a ∈ onOff prop_value as) : a ∈ as := by
  unfold onOff at h
  split at h
  · cases h
  · exact h

theorem mem_echo {d : Device} {path : String} {value : Value} {a : Assignment} (h : a ∈ d.echo path value) :
    a.1 = .node path := by
  unfold Device.echo at h
  split at h
  · rw [List.mem_singleton.1 h]
  · cases h

theorem mem_copied {name : String} {value : Value} {a : Assignment} (h : a ∈ (copied name value).assignments) :
    a.1 = .prop name := by
  unfold copied assigns at h
  dsimp only at h
  split at h
  · cases h
  · rw [List.mem_singleton.1 h]
    rfl

@[simp] theorem setprop_fst (name : String) (value : Value) : (setprop name value).1 = .prop name := rfl

@[simp] theorem deleteprop_fst (name : String) : (deleteprop name).1 = .prop name := rfl

theorem mem_xiaomiToggleDt2wProcNode {d : Device} {value : Value} {a : Assignment}
    (h : a ∈ d.xiaomiToggleDt2wProcNode value) : ∃ node ∈ dt2wProcNodes, a.1 = .node node := by
  unfold Device.xiaomiToggleDt2wProcNode at h
  split at h
  · rename_i node hnode
    exact ⟨node, List.mem_of_find?_eq_some hnode, mem_echo h⟩
  · cases h

theorem mem_xiaomiToggleDt2wEventNode {d : Device} {value : Value} {a : Assignment}
    (h : a ∈ d.xiaomiToggleDt2wEventNode value) : ∃ ev, a.1 = .input ev := by
  unfold Device.xiaomiToggleDt2wEventNode at h
  dsimp only at h
  split at h
  · rename_i ev hev
    exact ⟨ev, by rw [List.mem_singleton.1 h]⟩
  · cases h

theorem mem_xiaomiToggleDt2wIoctl {d : Device} {value : Value} {a : Assignment}
    (h : a ∈ d.xiaomiToggleDt2wIoctl value) : a.1 = .touch 14 := by
  unfold Device.xiaomiToggleDt2wIoctl at h
  split at h
  · rw [List.mem_singleton.1 h]
  · cases h

theorem role_xiaomi {d : Device} {value : Value} {a : Assignment}
    (h : a ∈ d.xiaomiToggleDt2wProcNode value ++ d.xiaomiToggleDt2wEventNode value ++ d.xiaomiToggleDt2wIoctl value) :
    role a.1 = some (.xiaomiDt2w, .setting) := by
  rcases List.mem_append.1 h with h | h
  · rcases List.mem_append.1 h with h | h
    · obtain ⟨node, hnode, ha⟩ := mem_xiaomiToggleDt2wProcNode h
      rw [ha]
      have hall : ∀ node ∈ dt2wProcNodes, role (.node node) = some (.xiaomiDt2w, .setting) := by decide
      exact hall node hnode
    · obtain ⟨ev, ha⟩ := mem_xiaomiToggleDt2wEventNode h
      rw [ha, role]
  · rw [mem_xiaomiToggleDt2wIoctl h, role]

theorem role_backlightScale {d : Device} {prop_value : Value} {a : Assignment} (h : a ∈ d.backlightScale prop_value) :
    role a.1 = some (.backlightScale, .setting) := by
  have hname : a.1 = .prop "persist.sys.qcom-brightness" := by
    unfold Device.backlightScale at h
    split at h
    · split at h
      · rw [List.mem_singleton.1 h, setprop_fst]
      · cases h
    · rw [List.mem_singleton.1 h, setprop_fst]
  rw [hname]
  decide

theorem role_systemAudioHal {d : Device} {prop_value : Value} {a : Assignment}
    (h : a ∈ (d.systemAudioHal prop_value).assignments) :
    role a.1 = some (.systemAudioHal, .setting) ∨
      a.1 = .prop Key.systemAudioHal.name ∧ (prop_value = "0".toList ∨ prop_value = "1".toList) ∧
        (a.2 = some "false".toList ∨ a.2 = some "true".toList) := by
  unfold Device.systemAudioHal at h
  split at h
  · rename_i hv
    rw [List.mem_singleton.1 h]
    exact .inr ⟨rfl, .inl hv, .inl rfl⟩
  · split at h
    · rename_i hv
      rw [List.mem_singleton.1 h]
      exact .inr ⟨rfl, .inr hv, .inr rfl⟩
    · split at h
      · cases h
      · left
        -- three assignments in either case, each to a setting of the table
        split at h <;> dsimp only at h <;> revert a <;> decide

/-- The handlers write their own settings, and one of them its own property,
from `0` and `1` to `false` and `true`. -/
theorem role_handle {d : Device} {k : Key} {value : Option Value} {a : Assignment}
    (h : a ∈ (d.handle k value).assignments) :
    role a.1 = some (k, .setting) ∨
      a.1 = .prop k.name ∧ (got (value.getD []) = "0".toList ∨ got (value.getD []) = "1".toList) ∧
        (a.2 = some "false".toList ∨ a.2 = some "true".toList) := by
  cases k with
  | mainkeys => left; rw [mem_copied h]; decide
  | enableSfGlBackpressure => left; rw [mem_copied h]; decide
  | asusDt2w => left; rw [List.mem_singleton.1 (mem_onOff h), setprop_fst]; decide
  | asusUsbPort => left; rw [List.mem_singleton.1 h, setprop_fst]; decide
  | xiaomiDt2w => exact .inl (role_xiaomi (mem_onOff h))
  | oppoDt2w => left; rw [mem_echo (mem_onOff h)]; decide
  | oppoGamingMode => left; rw [mem_echo (mem_onOff h)]; decide
  | oppoUsbotg =>
    left
    rw [mem_echo (mem_onOff h)]
    unfold Device.oppoUsbotgNode
    split <;> decide
  | transsionUsbotg =>
    left
    have hmem := mem_onOff h
    split at hmem
    · rename_i path hpath
      rw [List.mem_singleton.1 hmem, role, if_pos path.2]
    · cases hmem
  | transsionDt2w =>
    left
    change a ∈ ite _ _ _ at h
    split at h
    · cases h
    · rw [mem_echo h]
      decide
  | allowBinderThread =>
    left
    have hmem := mem_onOff h
    split at hmem
    · rw [List.mem_singleton.1 hmem, setprop_fst]
      decide
    · rw [List.mem_singleton.1 hmem, deleteprop_fst]
      decide
  | disableAudioEffects =>
    left
    simp only [Device.handle] at h
    split at h
    · cases h
    · dsimp only at h
      split at h
      · rw [List.mem_singleton.1 h, setprop_fst]
        decide
      · rw [List.mem_singleton.1 h, deleteprop_fst]
        decide
  | vsmartDt2w => left; rw [mem_echo (mem_onOff h)]; decide
  | backlightScale => exact .inl (role_backlightScale (mem_onOff h))
  | systemAudioHal => exact role_systemAudioHal h

/-! ## How much one handler does -/

theorem length_onOff (prop_value : Value) (as : List Assignment) : (onOff prop_value as).length ≤ as.length := by
  unfold onOff
  split
  · exact Nat.zero_le _
  · exact Nat.le_refl _

theorem length_echo (d : Device) (path : String) (value : Value) : (d.echo path value).length ≤ 1 := by
  unfold Device.echo
  split
  · exact Nat.le_refl _
  · exact Nat.zero_le _

theorem length_backlightScale (d : Device) (prop_value : Value) : (d.backlightScale prop_value).length ≤ 1 := by
  unfold Device.backlightScale
  split
  · split
    · exact Nat.le_refl _
    · exact Nat.zero_le _
  · exact Nat.le_refl _

theorem length_copied (name : String) (value : Value) : (copied name value).assignments.length ≤ 1 := by
  simp only [copied, assigns]
  split
  · exact Nat.zero_le _
  · exact Nat.le_refl _

/-- Only two handlers make more than one assignment. -/
theorem length_handle (d : Device) {k : Key} (hx : k ≠ .xiaomiDt2w) (ha : k ≠ .systemAudioHal) (value : Option Value) :
    (d.handle k value).assignments.length ≤ 1 := by
  cases k with
  | mainkeys => exact length_copied _ _
  | enableSfGlBackpressure => exact length_copied _ _
  | asusDt2w => exact length_onOff _ _
  | asusUsbPort => exact Nat.le_refl _
  | xiaomiDt2w => exact absurd rfl hx
  | oppoDt2w => exact Nat.le_trans (length_onOff _ _) (length_echo d _ _)
  | oppoGamingMode => exact Nat.le_trans (length_onOff _ _) (length_echo d _ _)
  | oppoUsbotg => exact Nat.le_trans (length_onOff _ _) (length_echo d _ _)
  | transsionUsbotg =>
    refine Nat.le_trans (length_onOff _ _) ?_
    split
    · exact Nat.le_refl _
    · exact Nat.zero_le _
  | transsionDt2w =>
    change (ite _ _ _ : List Assignment).length ≤ 1
    split
    · exact Nat.zero_le _
    · exact length_echo d _ _
  | allowBinderThread => exact length_onOff _ _
  | disableAudioEffects =>
    simp only [Device.handle]
    split
    · exact Nat.zero_le _
    · exact Nat.le_refl _
  | vsmartDt2w => exact Nat.le_trans (length_onOff _ _) (length_echo d _ _)
  | backlightScale => exact Nat.le_trans (length_onOff _ _) (length_backlightScale d _)
  | systemAudioHal => exact absurd rfl ha

theorem length_xiaomiToggleDt2wProcNode (d : Device) (value : Value) : (d.xiaomiToggleDt2wProcNode value).length ≤ 1 := by
  unfold Device.xiaomiToggleDt2wProcNode
  split
  · exact length_echo d _ _
  · exact Nat.zero_le _

theorem length_xiaomiToggleDt2wEventNode (d : Device) (value : Value) :
    (d.xiaomiToggleDt2wEventNode value).length ≤ 1 := by
  unfold Device.xiaomiToggleDt2wEventNode
  dsimp only
  split
  · exact Nat.le_refl _
  · exact Nat.zero_le _

theorem length_xiaomiToggleDt2wIoctl (d : Device) (value : Value) : (d.xiaomiToggleDt2wIoctl value).length ≤ 1 := by
  unfold Device.xiaomiToggleDt2wIoctl
  split
  · exact Nat.le_refl _
  · exact Nat.zero_le _

theorem things_handle (d : Device) (k : Key) (value : Option Value) :
    (d.handle k value).assignments.length + (d.handle k value).restarts.length + 2 ≤ 9 := by
  have hrestarts : (d.handle k value).restarts.length ≤ 4 := by
    cases k with
    | disableAudioEffects =>
      simp only [Device.handle]
      split
      · exact Nat.zero_le _
      · exact Nat.le_refl _
    | systemAudioHal =>
      simp only [Device.handle, Device.systemAudioHal]
      split
      · exact Nat.zero_le _
      · split
        · exact Nat.zero_le _
        · split
          · exact Nat.zero_le _
          · split <;> exact Nat.le_refl _
    | _ => exact Nat.zero_le _
  have hassignments : (d.handle k value).assignments.length ≤ 3 := by
    cases k with
    | xiaomiDt2w =>
      refine Nat.le_trans (length_onOff _ _) ?_
      have hproc := length_xiaomiToggleDt2wProcNode d (got (value.getD []))
      have hevent := length_xiaomiToggleDt2wEventNode d (got (value.getD []))
      have hioctl := length_xiaomiToggleDt2wIoctl d (got (value.getD []))
      simp only [List.length_append]
      omega
    | systemAudioHal =>
      simp only [Device.handle, Device.systemAudioHal]
      split
      · exact Nat.le_add_left 1 2
      · split
        · exact Nat.le_add_left 1 2
        · split
          · exact Nat.zero_le _
          · split <;> exact Nat.le_refl _
    | _ => exact Nat.le_trans (length_handle d (by decide) (by decide) value) (by omega)
  omega

theorem nodup_of_length_le {as : List Assignment} (h : as.length ≤ 1) : (as.map Prod.fst).Nodup := by
  rcases as with - | ⟨a, - | ⟨b, as⟩⟩
  · exact List.nodup_nil
  · exact List.nodup_singleton _
  · simp at h

theorem nodup_onOff (prop_value : Value) {as : List Assignment} (h : (as.map Prod.fst).Nodup) :
    ((onOff prop_value as).map Prod.fst).Nodup := by
  unfold onOff
  split
  · exact List.nodup_nil
  · exact h

theorem nodup_xiaomi (d : Device) (value : Value) :
    ((d.xiaomiToggleDt2wProcNode value ++ d.xiaomiToggleDt2wEventNode value ++
      d.xiaomiToggleDt2wIoctl value).map Prod.fst).Nodup := by
  rw [List.map_append, List.map_append, List.nodup_append, List.nodup_append]
  refine ⟨⟨nodup_of_length_le (length_xiaomiToggleDt2wProcNode d value),
    nodup_of_length_le (length_xiaomiToggleDt2wEventNode d value), ?_⟩,
    nodup_of_length_le (length_xiaomiToggleDt2wIoctl d value), ?_⟩
  · intro l hl l' hl'
    obtain ⟨a, ha, rfl⟩ := List.mem_map.1 hl
    obtain ⟨b, hb, rfl⟩ := List.mem_map.1 hl'
    obtain ⟨node, -, ha⟩ := mem_xiaomiToggleDt2wProcNode ha
    obtain ⟨ev, hb⟩ := mem_xiaomiToggleDt2wEventNode hb
    rw [ha, hb]
    exact nofun
  · intro l hl l' hl'
    obtain ⟨b, hb, rfl⟩ := List.mem_map.1 hl'
    rw [mem_xiaomiToggleDt2wIoctl hb]
    rcases List.mem_append.1 hl with hl | hl
    · obtain ⟨a, ha, rfl⟩ := List.mem_map.1 hl
      obtain ⟨node, -, ha⟩ := mem_xiaomiToggleDt2wProcNode ha
      rw [ha]
      exact nofun
    · obtain ⟨a, ha, rfl⟩ := List.mem_map.1 hl
      obtain ⟨ev, ha⟩ := mem_xiaomiToggleDt2wEventNode ha
      rw [ha]
      exact nofun

theorem nodup_handle (d : Device) (k : Key) (value : Option Value) :
    ((d.handle k value).assignments.map Prod.fst).Nodup := by
  cases k with
  | xiaomiDt2w => exact nodup_onOff _ (nodup_xiaomi d _)
  | systemAudioHal =>
    simp only [Device.handle, Device.systemAudioHal]
    split
    · exact List.nodup_singleton _
    · split
      · exact List.nodup_singleton _
      · split
        · exact List.nodup_nil
        · split <;> simp [setprop, deleteprop]
  | _ => exact nodup_of_length_le (length_handle d (by decide) (by decide) value)

/-! ## The triggers of a device -/

theorem not_migrates {value : Option Value} (h : value = some "false".toList ∨ value = some "true".toList) :
    ¬ (got (value.getD []) = "0".toList ∨ got (value.getD []) = "1".toList) := by
  rcases h with rfl | rfl <;> decide

/-- A property that a handler has migrated is not migrated again. -/
theorem handle_rests {d : Device} {k : Key} {value value' : Option Value}
    (h : (.prop k.name, value') ∈ (d.handle k value).assignments) :
    ∀ a ∈ (d.handle k value').assignments, a.1 ≠ .prop k.name := by
  have hvalue : value' = some "false".toList ∨ value' = some "true".toList := by
    rcases role_handle h with hrole | ⟨-, -, hvalue⟩
    · rw [role_name] at hrole
      cases hrole
    · exact hvalue
  intro a ha hself
  rcases role_handle ha with hrole | ⟨-, hmigrates, -⟩
  · rw [hself, role_name] at hrole
    cases hrole
  · exact not_migrates hvalue hmigrates

def Device.handlers (d : Device) : Triggers.Handlers Key Loc (Option Value) String where
  loc k := .prop k.name
  handle := d.handle
  owner l := (role l).map Prod.fst
  owner_loc k := by rw [role_name, Option.map_some]
  owner_handle h := by
    rcases role_handle h with hrole | ⟨hself, -⟩
    · rw [hrole, Option.map_some]
    · rw [hself, role_name, Option.map_some]
  nodup := nodup_handle d
  rests := handle_rests

/-! ## Runs -/

abbrev State := Triggers.State Key Loc (Option Value) String

abbrev Event := Triggers.Event Loc (Option Value) String

def Device.run (d : Device) (s : State) (es : List Event) : State := Runs.run (Triggers.State.step d.handlers) s es

theorem outside_set (d : Device) (k : Key) (value : Option Value) :
    Triggers.Event.Outside d.handlers (.set (.prop k.name) value) := by
  intro k' h
  rw [show d.handlers.owner (.prop k.name) = some k from d.handlers.owner_loc k] at h
  rw [Option.some.inj h]
  rfl

theorem runs_idle {d : Device} {s : State} (h : s.running = none) : s.Runs d.handlers := by
  intro k r hr
  rw [h] at hr
  cases hr

/-- However the triggers, the writes of others to their properties and the starts of
the services fall, as long as nobody else writes a setting: once init has nothing
left to do every property that was written has its migrated value and its settings,
and the audio services have them too, apart from those still to start. -/
theorem settings_run (d : Device) {s : State} (hs : s.running = none) {es : List Event}
    (hes : ∀ e ∈ es, e.Outside d.handlers) (hrest : (d.run s es).AtRest) {k : Key}
    (hk : (∃ value, .set (.prop k.name) value ∈ es) ∨ k ∈ s.pending ∨ s.Agrees d.handlers k) :
    let t := d.run s es
    let r := d.handle k (t.store (.prop k.name))
    (∀ a ∈ r.assignments, a.1 ≠ .prop k.name ∧ t.store a.1 = a.2) ∧
      ∀ svc ∈ r.restarts, t.requested svc = true ∨ ∀ a ∈ r.assignments, t.loaded svc a.1 = a.2 := by
  intro t r
  have htracked := Triggers.tracked_run (T := d.handlers) (runs_idle hs) hes
    (hk.imp_right (Or.imp_right (Triggers.tracked_iff hs).2))
  rw [show (Runs.run (Triggers.State.step d.handlers) s es).pending = [] from hrest.2] at htracked
  obtain ⟨hassigned, hrestarted⟩ := (Triggers.tracked_iff hrest.1).1 (htracked.resolve_left List.not_mem_nil)
  refine ⟨?_, hrestarted⟩
  intro a ha
  refine ⟨?_, hassigned a ha⟩
  intro hself
  have hstore : t.store (.prop k.name) = a.2 := hself ▸ hassigned a ha
  rcases role_handle ha with hrole | ⟨-, hmigrates, hvalue⟩
  · rw [hself, role_name] at hrole
    cases hrole
  · rw [hstore] at hmigrates
    exact not_migrates hvalue hmigrates

/-- A phone without the nodes of the handlers. -/
def Device.plain : Device where
  file _ := false
  cat _ := []
  events := []
  isTouchscreen _ := false
  otgPath := none
  xiaomiTouch := false
  audioHal := "vendor.audio-hal"

/-- Nothing is set yet. -/
def State.fresh : State where
  store _ := none
  pending := []
  running := none
  requested _ := false
  loaded _ _ := none

/-- The `1` of an older Settings app, which is set to `true` first. -/
theorem settings_run_migrated :
    let t := Device.plain.run .fresh
      (.set (.prop "persist.bluetooth.system_audio_hal.enabled") (some "1".toList) :: List.replicate 12 .turn)
    let r := Device.plain.handle .systemAudioHal (t.store (.prop "persist.bluetooth.system_audio_hal.enabled"))
    (∀ a ∈ r.assignments, a.1 ≠ .prop "persist.bluetooth.system_audio_hal.enabled" ∧ t.store a.1 = a.2) ∧
      ∀ svc ∈ r.restarts, t.requested svc = true ∨ ∀ a ∈ r.assignments, t.loaded svc a.1 = a.2 := by
  refine settings_run Device.plain (k := .systemAudioHal) rfl ?_ ⟨by decide, by decide⟩ ?_
  · intro e he
    rcases List.mem_cons.1 he with rfl | he
    · exact outside_set Device.plain .systemAudioHal (some "1".toList)
    · rw [List.eq_of_mem_replicate he]
      exact trivial
  · exact .inl ⟨_, List.mem_cons_self⟩

example : (Device.plain.run .fresh
    (.set (.prop "persist.bluetooth.system_audio_hal.enabled") (some "1".toList) :: List.replicate 12 .turn)).store
      (.prop "persist.bluetooth.a2dp_offload.disabled") = some "true".toList := by decide

/-- Left alone, init has nothing left to do after a number of turns that grows with
the triggers only. -/
theorem settles_run (d : Device) {s : State} (hs : s.running = none) (es : List Event) {es' : List Event}
    (hes' : ∀ e ∈ es', e.isSet = false)
    (hturns : 18 * ((d.run s es).pending.length + 1) ≤ es'.countP Triggers.Event.isTurn) :
    (d.run s (es ++ es')).AtRest := by
  have hruns : (d.run s es).Runs d.handlers :=
    Runs.run_inv (J := Triggers.State.Runs d.handlers) (fun _ e h => Triggers.runs_step h e) (runs_idle hs) es
  rw [Device.run, Runs.run_append]
  exact Triggers.atRest_run (T := d.handlers) (c := 9) (things_handle d) hruns hes' hturns

theorem settles_run_written :
    (Device.plain.run .fresh
      ([.set (.prop "persist.sys.phh.asus.dt2w") (some "1".toList)] ++ List.replicate 36 .turn)).AtRest := by
  refine settles_run Device.plain rfl _ ?_ (by decide)
  intro e he
  rw [List.eq_of_mem_replicate he]
  rfl

end PhhTreble.Boot.PropHandler
