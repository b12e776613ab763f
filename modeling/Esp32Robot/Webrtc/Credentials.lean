import Esp32Robot.Webrtc.Network

/-!
# The stored Wi-Fi credentials

How `IDF_esp32p4_webrtc/common/network.c` keeps the credentials of a connect in NVS and
finds them there after a reboot. The SSID and the password are two strings of NVS, each
written and read by a call of its own, and nothing tells whether both are of one pair.
-/

namespace Esp32Robot.Webrtc

open Esp32Robot.Base

/-- The strings of the partition `wifi-set` under the keys `ssid` and `psw`, `network.c:49–51`. -/
structure Nvs where
  ssid : Option (List UInt8)
  psw : Option (List UInt8)
  deriving DecidableEq, Repr

/-- Whether `nvs_open`, the call for the SSID and the call for the password succeed. -/
structure NvsOutcome where
  opened : Bool
  ssid : Bool
  psw : Bool
  deriving DecidableEq, Repr

/-- `nvs_get_str` into a field: it fails also when there is no string, or one that does not fit the
field with its terminator. -/
def nvsGetStr (ok : Bool) (size : Nat) (stored : Option (List UInt8)) : Option (List UInt8) :=
  if ok then stored.filter (fun text ↦ text.length + 1 ≤ size) else none

/-- `load_from_nvs`, `network.c:66–90`: whether it succeeds, and the configuration that it fills as
it goes. The last byte of each field is set to a terminator. -/
def loadFromNvs (o : NvsOutcome) (nvs : Nvs) (config : WifiConfig) : Bool × WifiConfig :=
  if !o.opened then (false, config)
  else
    match nvsGetStr o.ssid 32 nvs.ssid with
    | none => (false, config)
    | some ssid =>
      match nvsGetStr o.psw 64 nvs.psw with
      | none => (false, { config with ssid := ssid.take 31 })
      | some psw => (true, { ssid := ssid.take 31, password := psw.take 63 })

/-- `store_to_nvs`, `network.c:92–113`. -/
def storeToNvs (o : NvsOutcome) (config : WifiConfig) (nvs : Nvs) : Nvs :=
  if !o.opened then nvs
  else if !o.ssid then nvs
  else if !o.psw then { nvs with ssid := some config.ssid }
  else { ssid := some config.ssid, psw := some config.password }

/-- What `load_from_nvs` yields after a reboot, when the fields are zero; none when it rejects. -/
def loadAtBoot (o : NvsOutcome) (nvs : Nvs) : Option WifiConfig :=
  let (loaded, config) := loadFromNvs o nvs ⟨[], []⟩
  if loaded then some config else none

/-- A reboot through `network_init`, `network.c:130–161`. -/
def Network.reboot (o : NvsOutcome) (ssid password : Option CString) (nvs : Nvs) : Network :=
  .init ssid password (loadAtBoot o nvs)

/-- This pair is stored. -/
def Nvs.Holds (nvs : Nvs) (config : WifiConfig) : Prop :=
  nvs.ssid = some config.ssid ∧ nvs.psw = some config.password

instance (nvs : Nvs) (config : WifiConfig) : Decidable (nvs.Holds config) :=
  inferInstanceAs (Decidable (_ ∧ _))

/-- The credentials of a connect survive: the driver gets them as they are, and after they were
stored and the P4 rebooted, either they are loaded, or the pair that was stored before, or none. -/
structure CredentialsSurvive (ssid password : CString) (s : Network) (nvs : Nvs)
    (store load : NvsOutcome) : Prop where
  configured : (s.connectWifi (some ssid) (some password)).calls =
    s.calls ++ [.disconnect, .stop, .setConfig ⟨ssid.bytes, password.bytes⟩, .start]
  reloaded : ∀ config,
    loadAtBoot load (storeToNvs store (s.connectWifi (some ssid) (some password)).wifiConfig nvs) =
      some config →
    config = ⟨ssid.bytes, password.bytes⟩ ∨ nvs.Holds config

/-- The SSID is stored and the password is not, and both are loaded with a password of another pair
that was stored before. -/
def Torn (ssid password : CString) (nvs : Nvs) (store load : NvsOutcome) : Prop :=
  store = ⟨true, true, false⟩ ∧ load = ⟨true, true, true⟩ ∧ nvs.ssid ≠ some ssid.bytes ∧
    ∃ psw ∈ nvs.psw, psw.length ≤ 63 ∧ psw ≠ password.bytes

/-! ### One call -/

/-- A string that fits is read when the call succeeds. -/
theorem nvsGetStr_eq_some {ok : Bool} {size : Nat} {stored : Option (List UInt8)}
    {text : List UInt8} :
    nvsGetStr ok size stored = some text ↔
      ok = true ∧ stored = some text ∧ text.length + 1 ≤ size := by
  unfold nvsGetStr
  cases ok <;> simp [Option.filter_eq_some_iff]

/-- A pair is loaded when it is stored, fits the fields, and every call succeeds. -/
theorem loadAtBoot_eq_some {o : NvsOutcome} {nvs : Nvs} {config : WifiConfig} :
    loadAtBoot o nvs = some config ↔
      o = ⟨true, true, true⟩ ∧ nvs.Holds config ∧ config.ssid.length ≤ 31 ∧
        config.password.length ≤ 63 := by
  constructor
  · intro h
    unfold loadAtBoot loadFromNvs at h
    obtain ⟨opened, ssidOk, pswOk⟩ := o
    cases opened with
    | false => exact absurd h (by simp)
    | true =>
      simp only [Bool.not_true, Bool.false_eq_true, if_false] at h
      split at h
      · exact absurd h (by simp)
      · next ssid hssid =>
        split at h
        · exact absurd h (by simp)
        · next psw hpsw =>
          obtain ⟨rfl, hs, hsfit⟩ := nvsGetStr_eq_some.mp hssid
          obtain ⟨rfl, hp, hpfit⟩ := nvsGetStr_eq_some.mp hpsw
          rw [List.take_of_length_le (by omega), List.take_of_length_le (by omega)] at h
          simp only [if_true, Option.some.injEq] at h
          subst h
          exact ⟨rfl, ⟨hs, hp⟩, Nat.le_of_succ_le_succ hsfit, Nat.le_of_succ_le_succ hpfit⟩
  · rintro ⟨rfl, ⟨hs, hp⟩, hsfit, hpfit⟩
    have hssid : nvsGetStr true 32 nvs.ssid = some config.ssid :=
      nvsGetStr_eq_some.mpr ⟨rfl, hs, by omega⟩
    have hpsw : nvsGetStr true 64 nvs.psw = some config.password :=
      nvsGetStr_eq_some.mpr ⟨rfl, hp, by omega⟩
    simp [loadAtBoot, loadFromNvs, hssid, hpsw, List.take_of_length_le hsfit,
      List.take_of_length_le hpfit]

/-- After `store_to_nvs` the new pair is stored or the one from before, when the call for the
password does not fail behind that for the SSID, or makes no difference. -/
theorem holds_storeToNvs {o : NvsOutcome} {new config : WifiConfig} {nvs : Nvs}
    (h : o = ⟨true, true, false⟩ → nvs.psw = some config.password →
      nvs.ssid = some new.ssid ∨ config.password = new.password)
    (hholds : (storeToNvs o new nvs).Holds config) : config = new ∨ nvs.Holds config := by
  obtain ⟨opened, ssidOk, pswOk⟩ := o
  obtain ⟨ssid, password⟩ := config
  cases opened
  case false => exact .inr hholds
  cases ssidOk
  case false => exact .inr hholds
  obtain ⟨hs, hp⟩ := hholds
  cases pswOk with
  | true =>
    cases hs
    cases hp
    exact .inl rfl
  | false =>
    cases hs
    -- The new SSID is stored with whatever password was stored before.
    rcases h rfl hp with hbefore | hsame
    · exact .inr ⟨hbefore, hp⟩
    · cases hsame
      exact .inl rfl

/-- Without an SSID among its settings `network_init` uses what is loaded, and its settings when
nothing is. -/
theorem wifiConfig_reboot (o : NvsOutcome) {ssid password : Option CString}
    (h : hasText ssid = false) (nvs : Nvs) :
    (Network.reboot o ssid password nvs).wifiConfig =
      (loadAtBoot o nvs).getD (setWifiCredentials ssid password) := by
  simp [Network.reboot, Network.init, h]

/-! ### Any number of stores -/

/-- A call of `store_to_nvs` with this configuration and these outcomes. -/
def Nvs.step (nvs : Nvs) (e : WifiConfig × NvsOutcome) : Option Nvs :=
  some (storeToNvs e.2 e.1 nvs)

/-- When only the call for the password fails, the one that stays belongs to the new SSID. -/
def KeepsPair (nvs : Nvs) (e : WifiConfig × NvsOutcome) : Prop :=
  e.2 = ⟨true, true, false⟩ → ∀ psw ∈ nvs.psw, nvs.ssid = some e.1.ssid ∨ psw = e.1.password

/-- A pair that is loaded after any such calls was stored by one of them, as a pair. -/
theorem mem_of_loadAtBoot {es : List (WifiConfig × NvsOutcome)} {nvs : Nvs}
    (hmeet : StepsMeet KeepsPair Nvs.step ⟨none, none⟩ es)
    (hrun : run Nvs.step ⟨none, none⟩ es = some nvs) {o : NvsOutcome} {config : WifiConfig}
    (hload : loadAtBoot o nvs = some config) : config ∈ es.map Prod.fst := by
  obtain ⟨_, hholds, _⟩ := loadAtBoot_eq_some.mp hload
  clear hload
  induction es using concat_induction generalizing nvs with
  | nil =>
    cases hrun
    exact absurd hholds.1 (by simp)
  | concat es e ih =>
    obtain ⟨before, hbefore, hstep⟩ := run_concat_some.mp hrun
    cases hstep
    rw [List.map_append, List.mem_append]
    rcases holds_storeToNvs (fun ho hpsw ↦ hmeet.last hbefore ho _ hpsw) hholds with rfl | hkept
    · exact .inr (List.mem_singleton.mpr rfl)
    · exact .inl (ih hmeet.left hbefore hkept)

/-! ### A connect, a store and a reboot -/

section Survive

variable {ssid password : CString} {s : Network} {nvs : Nvs} {store load : NvsOutcome}

/-- A connect configures as much of the texts as fits with a terminator. -/
theorem wifiConfig_connectWifi :
    (s.connectWifi (some ssid) (some password)).wifiConfig =
      ⟨ssid.bytes.take 31, password.bytes.take 63⟩ := rfl

/-- The driver gets the credentials as they are when both texts fit. -/
theorem configured_iff (hpassword : password.bytes.length ≤ 63) :
    (s.connectWifi (some ssid) (some password)).calls =
        s.calls ++ [.disconnect, .stop, .setConfig ⟨ssid.bytes, password.bytes⟩, .start] ↔
      ssid.bytes.length ≤ 31 := by
  have hcalls : (s.connectWifi (some ssid) (some password)).calls =
      s.calls ++ [.disconnect, .stop,
        .setConfig ⟨ssid.bytes.take 31, password.bytes.take 63⟩, .start] := by
    simp [Network.connectWifi, Network.call, copyText]
  rw [hcalls, List.append_cancel_left_eq, List.take_of_length_le hpassword]
  have hfits : ssid.bytes.take 31 = ssid.bytes ↔ ssid.bytes.length ≤ 31 := by
    constructor
    · intro h
      have hlength := congrArg List.length h
      rw [List.length_take] at hlength
      omega
    · exact List.take_of_length_le
  simp [hfits]

/-- After a connect that fits, a pair that is loaded is the connected one or the one stored before,
unless the two calls of the store were torn apart. -/
theorem reloaded_iff (hssid : ssid.bytes.length ≤ 31) :
    (∀ config, loadAtBoot load (storeToNvs store ⟨ssid.bytes, password.bytes⟩ nvs) = some config →
        config = ⟨ssid.bytes, password.bytes⟩ ∨ nvs.Holds config) ↔
      ¬ Torn ssid password nvs store load := by
  constructor
  · rintro h ⟨rfl, rfl, hother, psw, hpsw, hfit, hne⟩
    have hload : loadAtBoot ⟨true, true, true⟩
        (storeToNvs ⟨true, true, false⟩ ⟨ssid.bytes, password.bytes⟩ nvs) =
          some ⟨ssid.bytes, psw⟩ :=
      loadAtBoot_eq_some.mpr ⟨rfl, ⟨rfl, hpsw⟩, hssid, hfit⟩
    rcases h _ hload with hpair | hbefore
    · exact hne (congrArg WifiConfig.password hpair)
    · exact hother hbefore.1
  · intro htorn config hload
    obtain ⟨rfl, hholds, _, hfit⟩ := loadAtBoot_eq_some.mp hload
    refine holds_storeToNvs (fun hstore hpsw ↦ ?_) hholds
    by_cases hbefore : nvs.ssid = some ssid.bytes
    · exact .inl hbefore
    · by_cases hsame : config.password = password.bytes
      · exact .inr hsame
      · exact absurd ⟨hstore, rfl, hbefore, config.password, hpsw, hfit, hsame⟩ htorn

end Survive

/-- The credentials of a connect survive exactly when the SSID fits with its terminator and its
call of the store is not torn from that for the password. -/
theorem credentialsSurvive_iff {ssid password : CString} (hpassword : password.bytes.length ≤ 63)
    (s : Network) (nvs : Nvs) (store load : NvsOutcome) :
    CredentialsSurvive ssid password s nvs store load ↔
      ssid.bytes.length ≤ 31 ∧ ¬ Torn ssid password nvs store load := by
  constructor
  · intro h
    have hssid := (configured_iff hpassword).mp h.configured
    refine ⟨hssid, (reloaded_iff hssid).mp ?_⟩
    have hreloaded := h.reloaded
    rw [wifiConfig_connectWifi, List.take_of_length_le hssid,
      List.take_of_length_le hpassword] at hreloaded
    exact hreloaded
  · rintro ⟨hssid, htorn⟩
    refine ⟨(configured_iff hpassword).mpr hssid, ?_⟩
    rw [wifiConfig_connectWifi, List.take_of_length_le hssid, List.take_of_length_le hpassword]
    exact (reloaded_iff hssid).mpr htorn

/-- A network that was never set up, with the pair of another one in its store. -/
private def movedNetwork : Network := .init none none none

private def oldPair : Nvs := ⟨some (CString.lit "home").bytes, some (CString.lit "at home").bytes⟩

/-- The credentials survive when every call of the store succeeds. -/
theorem credentialsSurvive_stored :
    CredentialsSurvive (.lit "office") (.lit "at work") movedNetwork oldPair ⟨true, true, true⟩
      ⟨true, true, true⟩ :=
  (credentialsSurvive_iff (by decide) _ _ _ _).mpr ⟨by decide, fun h ↦ nomatch h.1⟩

/-- When the call for the password fails, the new SSID is loaded with the old password. -/
theorem credentials_torn :
    ¬ ∀ (ssid password : CString) s nvs store load,
      1 ≤ ssid.bytes.length → ssid.bytes.length ≤ 32 → password.bytes.length ≤ 63 →
        CredentialsSurvive ssid password s nvs store load := by
  intro h
  have hsurvive := h (.lit "office") (.lit "at work") movedNetwork oldPair ⟨true, true, false⟩
    ⟨true, true, true⟩ (by decide) (by decide) (by decide)
  have hload := hsurvive.reloaded ⟨(CString.lit "office").bytes, (CString.lit "at home").bytes⟩
    (by decide)
  exact absurd hload (by decide)

end Esp32Robot.Webrtc
