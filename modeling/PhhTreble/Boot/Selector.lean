import Mathlib.Logic.Function.Basic
import PhhTreble.Lib.Text
/-!
# The stock MTK IMS selector of rw-system.sh

The model name as the script normalizes it, the flag that Settings keeps with
its one-time default, and the bind mounts that put one of the two IMS stacks in
place. What `touch`, `mount` and `umount` return is an answer of the boot.
-/

namespace PhhTreble.Boot

open Text

/-! ## Shell text -/

/-- The value of a property or a variable. -/
abbrev Value := List Char

/-- What `getprop` prints of a property. -/
def getprop (v : Value) : List Char := v ++ ['\n']

/-- `"$(getprop …)"`. -/
def got (v : Value) : Value := chomp (getprop v)

/-- `tr '[:upper:]' '[:lower:]'`. -/
def tr (s : List Char) : List Char := s.map Char.toLower

/-- `sed 's/^[[:space:]]*//;s/[[:space:]]*$//'`. -/
def sed (s : List Char) : List Char := unlines ((lines s).map trim)

/-- `stock_mtk_ims_model`. -/
def stockMtkImsModel (model : Value) : Value := chomp (sed (tr (getprop model)))

/-- The models of the `case`. -/
def Supported (model : Value) : Prop :=
  stockMtkImsModel model = "dumber mini".toList ∨ stockMtkImsModel model = "s9".toList

instance (model : Value) : Decidable (Supported model) := inferInstanceAs (Decidable (_ ∨ _))

/-! ## The data model -/

inductive Target where
  | imsService | mtkGbaService | mtkTelephonyAssist | mediatekRes | carrierConfig
deriving DecidableEq, Repr

/-- What is bound on a target: its directory of `STOCK_MTK_IMS_STAGE` or
`/mnt/phh/empty_dir`. -/
inductive Source where
  | stage | emptyDir
deriving DecidableEq, Repr

/-- The mounts on each target, the top one first. -/
abbrev Mounts := Target → List Source

structure Phone where
  /-- `STOCK_MTK_IMS_FLAG` is there. -/
  flag : Bool
  /-- `STOCK_MTK_IMS_DEFAULT_INITIALIZED` is there. -/
  marker : Bool
  /-- `persist.mtk_ims_support`. -/
  ims_support : Value
  /-- `persist.mtk_epdg_support`. -/
  epdg_support : Value
  /-- `sys.phh.stock_mtk_ims`. -/
  stock_mtk_ims : Value
  mounts : Mounts

/-- One boot: what the scripts read of the device, and what their calls answer. -/
structure Answers where
  model : Value
  mtkmal : Bool
  vold_decrypt : Value
  touchFlag : Bool
  touchMarker : Bool
  stage : Target → Bool
  hide : Target → Bool
  umount : Target → Bool

/-! ## The selector -/

/-- The default, once: `{ [ -f FLAG ] || touch FLAG; } && touch MARKER`. -/
def initDefault (e : Answers) (p : Phone) : Phone :=
  if p.marker then p
  else if p.flag ∨ e.touchFlag then { p with flag := true, marker := e.touchMarker }
  else p

def stockMtkImsTargets : List Target := [.imsService, .mtkGbaService, .mtkTelephonyAssist, .mediatekRes, .carrierConfig]

/-- `mount -o bind` on one target after the other, until one fails. -/
def bindAll (src : Source) (ok : Target → Bool) : List Target → Mounts → Mounts × Bool
  | [], m => (m, true)
  | t :: ts, m => if ok t then bindAll src ok ts (Function.update m t (src :: m t)) else (m, false)

def mountStockMtkIms (e : Answers) : Mounts → Mounts × Bool := bindAll .stage e.stage stockMtkImsTargets

def hideStockMtkImsMountpoints (e : Answers) : Mounts → Mounts × Bool :=
  bindAll .emptyDir e.hide [.imsService, .mtkGbaService, .mtkTelephonyAssist, .mediatekRes]

/-- `umount` of every target; where nothing is mounted it fails. -/
def unmountStockMtkIms (e : Answers) (m : Mounts) : Mounts :=
  stockMtkImsTargets.foldl (fun m t => if e.umount t then Function.update m t (m t).tail else m) m

def selectStock (e : Answers) (p : Phone) : Phone :=
  -- A mount that fails leaves the ones before it, for the fallback to undo.
  let (m, mounted) := if p.flag then mountStockMtkIms e p.mounts else (p.mounts, false)
  if mounted then { p with mounts := m, stock_mtk_ims := "true".toList }
  else { p with mounts := (hideStockMtkImsMountpoints e (unmountStockMtkIms e m)).1, stock_mtk_ims := "false".toList }

def rwSystem (e : Answers) (p : Phone) : Phone :=
  selectStock e (if Supported e.model then initDefault e p else p)

/-- A reboot: files and persistent properties stay. -/
def Phone.restart (p : Phone) : Phone := { p with stock_mtk_ims := [], mounts := fun _ => [] }

/-! ## Spellings -/

theorem got_eq (v : Value) : got v = chomp v := chomp_append_newlines v 1

end PhhTreble.Boot
