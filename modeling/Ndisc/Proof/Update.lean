import Ndisc.Proof.Transmit

/-!
# What `Update` leaves behind

`LldpRepository` gives each sender the device data of every synchronisation. The sender
should then hold these data, announce a change, and stay as it is where there is none.

* `update_macAddress`: `Update` never touches the MAC.
* `Follows`: what an `Update` should do.
* `update_follows_iff`: **it does so exactly when the sender has the new MAC already.**
-/

namespace Ndisc

open Wire

namespace Endpoint

variable {env : Env} {p : Endpoint} {newDeviceData : DeviceData}

/-! ## The device data -/

theorem tryTransmit_macAddress (env : Env) (p : Endpoint) :
    (p.tryTransmit env).sender.deviceData.macAddress = p.sender.deviceData.macAddress := by
  have h := congrArg DeviceData.macAddress (tryTransmit_deviceData env p)
  exact h

theorem tryTransmit_ifIndex (env : Env) (p : Endpoint) :
    (p.tryTransmit env).sender.deviceData.ifIndex = p.sender.deviceData.ifIndex := by
  have h := congrArg DeviceData.ifIndex (tryTransmit_deviceData env p)
  exact h

/-- While no send fails with `ENETDOWN`, a try leaves the device alone. -/
theorem tryTransmit_keeps (h : ∀ log, env.sendto log ≠ .netDown) (p : Endpoint) :
    (p.tryTransmit env).sender.deviceData = p.sender.deviceData := by
  have hdata := tryTransmit_deviceData env p
  rwa [← tryTransmit_operational h p] at hdata

theorem triggerTransmission_keeps (h : ∀ log, env.sendto log ≠ .netDown) (p : Endpoint) :
    (p.triggerTransmission env).sender.deviceData = p.sender.deviceData := by
  rw [triggerTransmission_eq]
  exact tryTransmit_keeps h p.arm

/-- **`Update` never touches the MAC.** -/
theorem update_macAddress (env : Env) (newDeviceData : DeviceData) (p : Endpoint) :
    (p.update env newDeviceData).sender.deviceData.macAddress = p.sender.deviceData.macAddress := by
  rcases update_eq env newDeviceData p with ⟨-, heq⟩ | ⟨-, heq⟩
  · rw [heq]
  · rw [heq, localChangeDetected_eq, tryTransmit_macAddress]
    split
    · rw [newNeighbour_eq]
      exact tryTransmit_macAddress env (p.renew newDeviceData).greet.countdown.arm
    · rfl

/-- The compared fields, the MAC and the index are all there is. -/
theorem unchanged_iff (hmac : p.sender.deviceData.macAddress = newDeviceData.macAddress)
    (hindex : p.sender.deviceData.ifIndex = newDeviceData.ifIndex) :
    p.Unchanged newDeviceData ↔ p.sender.deviceData = newDeviceData := by
  constructor
  · rintro ⟨hname, hv4, hv6, hop⟩
    cases hd : p.sender.deviceData
    cases newDeviceData
    simp_all [operational]
  · rintro rfl
    exact ⟨rfl, rfl, rfl, rfl⟩

theorem setOperational_deviceData (b : Bool) (p : Endpoint) :
    (p.setOperational b).sender.deviceData = { p.sender.deviceData with deviceOperational := b } :=
  rfl

/-- What the four copies leave. -/
theorem renew_deviceData (hmac : p.sender.deviceData.macAddress = newDeviceData.macAddress)
    (hindex : p.sender.deviceData.ifIndex = newDeviceData.ifIndex) :
    ((p.renew newDeviceData).setOperational newDeviceData.deviceOperational).sender.deviceData =
      newDeviceData := by
  have hcopied : ((p.renew newDeviceData).setOperational
      newDeviceData.deviceOperational).sender.deviceData =
    { newDeviceData with
      macAddress := p.sender.deviceData.macAddress
      ifIndex := p.sender.deviceData.ifIndex } := rfl
  rw [hcopied, hmac, hindex]

/-! ## What an `Update` should do -/

/-- The sender holds the new data; a change triggers a transmission, made from the new
data; no change changes nothing; and the same `Update` again does nothing. -/
structure Follows (env : Env) (newDeviceData : DeviceData) (p : Endpoint) : Prop where
  deviceData : (p.update env newDeviceData).sender.deviceData = newDeviceData
  triggered : p.sender.deviceData ≠ newDeviceData →
    ∃ q : Endpoint, q.sender.deviceData = newDeviceData ∧
      p.update env newDeviceData = q.triggerTransmission env
  idle : p.sender.deviceData = newDeviceData → p.update env newDeviceData = p
  again : (p.update env newDeviceData).update env newDeviceData = p.update env newDeviceData

theorem update_idle (h : p.sender.deviceData = newDeviceData) :
    p.update env newDeviceData = p := by
  rcases update_eq env newDeviceData p with ⟨-, heq⟩ | ⟨hne, -⟩
  · exact heq
  · subst h
    exact absurd ⟨rfl, rfl, rfl, rfl⟩ hne

/-- **A changed field triggers a transmission**, whatever else `Update` sent before. -/
theorem update_triggered (h : ∀ log, env.sendto log ≠ .netDown)
    (hmac : p.sender.deviceData.macAddress = newDeviceData.macAddress)
    (hindex : p.sender.deviceData.ifIndex = newDeviceData.ifIndex)
    (hne : p.sender.deviceData ≠ newDeviceData) :
    ∃ q : Endpoint, q.sender.deviceData = newDeviceData ∧
      p.update env newDeviceData = q.triggerTransmission env := by
  rcases update_eq env newDeviceData p with ⟨hsame, -⟩ | ⟨-, heq⟩
  · exact absurd ((unchanged_iff hmac hindex).1 hsame) hne
  · refine ⟨_, ?_, heq⟩
    have hrenew := renew_deviceData hmac hindex
    split
    · -- the greeting of a device that goes down leaves the copied fields as they are
      have hgreet : ((p.renew newDeviceData).newNeighbour env).sender.deviceData =
          (p.renew newDeviceData).sender.deviceData := by
        rw [newNeighbour_eq]
        exact tryTransmit_keeps h (p.renew newDeviceData).greet.countdown.arm
      rw [setOperational_deviceData, hgreet, ← setOperational_deviceData, hrenew]
    · exact hrenew

end Endpoint

open Endpoint

/-- **`Update` follows the device data exactly when the MAC is the same.** For every
sender and every new data with the same index, while no send fails with `ENETDOWN`. -/
theorem update_follows_iff (env : Env) (hsend : ∀ log, env.sendto log ≠ .netDown) (p : Endpoint)
    (newDeviceData : DeviceData) (hindex : p.sender.deviceData.ifIndex = newDeviceData.ifIndex) :
    p.Follows env newDeviceData ↔ p.sender.deviceData.macAddress = newDeviceData.macAddress := by
  constructor
  · intro h
    rw [← update_macAddress env newDeviceData p, h.deviceData]
  · intro hmac
    have hdata : (p.update env newDeviceData).sender.deviceData = newDeviceData := by
      by_cases heq : p.sender.deviceData = newDeviceData
      · rw [update_idle heq, heq]
      · obtain ⟨q, hq, hupdate⟩ := update_triggered hsend hmac hindex heq
        rw [hupdate, triggerTransmission_keeps hsend, hq]
    exact ⟨hdata, update_triggered hsend hmac hindex, update_idle, update_idle hdata⟩

/-- An interface whose MAC is known, and whose address changes. -/
theorem update_follows_address :
    (create quietEnv ⟨some ⟨[2, 0, 0, 0, 0, 1], rfl⟩, none, none, none, true, 2⟩
      .init).Follows quietEnv
        ⟨some ⟨[2, 0, 0, 0, 0, 1], rfl⟩, some ⟨[10, 0, 0, 1], rfl⟩, none, none, true, 2⟩ :=
  (update_follows_iff quietEnv (fun _ h => by cases h) _ _ (by decide +kernel)).2
    (by decide +kernel)

/-- An interface first seen through an address packet, whose MAC comes with the next link
dump: its sender never learns the MAC. -/
theorem update_keeps_macAddress :
    ¬ ∀ (env : Env) (p : Endpoint) (newDeviceData : DeviceData),
      (∀ log, env.sendto log ≠ .netDown) →
      p.sender.deviceData.ifIndex = newDeviceData.ifIndex → p.Follows env newDeviceData := by
  intro h
  have hfollows := h quietEnv
    (create quietEnv ⟨none, some ⟨[10, 0, 0, 1], rfl⟩, none, none, false, 2⟩ .init)
    ⟨some ⟨[2, 0, 0, 0, 0, 1], rfl⟩, some ⟨[10, 0, 0, 1], rfl⟩, none, some [101], true, 2⟩
    (fun _ h => by cases h) (by decide +kernel)
  exact absurd (congrArg DeviceData.macAddress hfollows.deviceData) (by decide +kernel)

end Ndisc
