import FunnelDispenser.Time.TimeLib

/-!
# Decoding an NTP reply

The server counts seconds from 1900 in 32 bits and starts over in 2036.  The
subtraction of the 70 years and the negative zone wrap as well, so what is
left is the local time modulo `2 ^ 32`, whichever era the counter is in.
-/

namespace FunnelDispenser.Time

open CMemory

def ntpEpochOffset : Nat := 2208988800

/-- Bytes 40 to 43 of a packet. -/
def transmitSeconds (packet : Bytes) : Bytes :=
  (packet.drop 40).take 4

theorem transmitSeconds_of_whole
    {packet : Bytes} (whole : ntpPacketSize ≤ packet.length) :
    transmitSeconds packet =
      [packet.getD 40 0, packet.getD 41 0, packet.getD 42 0,
        packet.getD 43 0] := by
  simp only [ntpPacketSize] at whole
  have byteAt : ∀ index, index < 48 →
      packet[index]? = some (packet.getD index 0) := by
    intro index bound
    rw [List.getD_eq_getElem?_getD,
      List.getElem?_eq_getElem (by omega : index < packet.length)]
    rfl
  apply List.ext_getElem?
  intro index
  rw [transmitSeconds, List.getElem?_take]
  by_cases inside : index < 4
  · rw [if_pos inside, List.getElem?_drop, byteAt _ (by omega)]
    obtain rfl | rfl | rfl | rfl :
        index = 0 ∨ index = 1 ∨ index = 2 ∨ index = 3 := by omega
    all_goals rfl
  · rw [if_neg inside, List.getElem?_eq_none (by simp; omega)]

theorem secsSince1900_eq
    {packet : Bytes} (whole : ntpPacketSize ≤ packet.length) :
    secsSince1900 packet =
      BitVec.ofNat 32 (bigEndian (transmitSeconds packet)) := by
  rw [transmitSeconds_of_whole whole, ← toNat_or_shifts,
    BitVec.ofNat_toNat, BitVec.setWidth_eq]
  rfl

/-- The era of the counter cancels out. -/
theorem era_cancels {time : Nat} (lower : 18000 ≤ time) :
    BitVec.ofNat 32 (time + ntpEpochOffset) -
        BitVec.ofNat 32 ntpEpochOffset + zoneShift =
      BitVec.ofNat 32 (time - 18000) := by
  obtain ⟨shifted, rfl⟩ : ∃ shifted, time = shifted + 18000 :=
    ⟨time - 18000, by omega⟩
  have zone : BitVec.ofNat 32 18000 + zoneShift = 0#32 := by decide
  rw [BitVec.ofNat_add, BitVec.add_sub_cancel, BitVec.ofNat_add,
    BitVec.add_assoc, zone, BitVec.add_zero, Nat.add_sub_cancel]

/-- A whole packet whose counter shows a time gives the local time, modulo
`2 ^ 32`. -/
theorem getNtpTime_of_counter
    {packet : Bytes} {time : Nat}
    (whole : ntpPacketSize ≤ packet.length) (lower : 18000 ≤ time)
    (counter : secsSince1900 packet =
      BitVec.ofNat 32 (time + ntpEpochOffset)) :
    getNtpTime (some packet) = BitVec.ofNat 32 (time - 18000) := by
  have decoded : getNtpTime (some packet) =
      secsSince1900 packet - BitVec.ofNat 32 ntpEpochOffset + zoneShift := by
    simp only [getNtpTime, whole, if_true]
    rfl
  rw [decoded, counter, era_cancels lower]

/-- Every Unix time from the first five hours on that a signed 32-bit number
can hold is decoded to its local time, whatever the rest of the packet is. -/
theorem getNtpTime_exact
    (packet : Bytes) (time : Nat)
    (whole : ntpPacketSize ≤ packet.length)
    (lower : 18000 ≤ time) (upper : time < 2 ^ 31)
    (carried : bigEndian (transmitSeconds packet) =
      (time + ntpEpochOffset) % 2 ^ 32) :
    (getNtpTime (some packet)).toInt = (time : Int) - 18000 := by
  have counter : secsSince1900 packet =
      BitVec.ofNat 32 (time + ntpEpochOffset) := by
    apply BitVec.eq_of_toNat_eq
    rw [secsSince1900_eq whole, carried, BitVec.toNat_ofNat,
      BitVec.toNat_ofNat, Nat.mod_mod]
  have seconds :
      (getNtpTime (some packet)).toNat = time - 18000 := by
    rw [getNtpTime_of_counter whole lower counter, BitVec.toNat_ofNat,
      Nat.mod_eq_of_lt (by omega)]
  rw [BitVec.toInt_eq_toNat_of_lt (by rw [seconds]; omega), seconds]
  omega

/-- Four seconds into the era that begins in February 2036. -/
theorem getNtpTime_exact_secondEra :
    let packet : Bytes :=
      List.replicate 40 7 ++ [0, 0, 0, 4] ++ List.replicate 4 9
    (getNtpTime (some packet)).toInt = (2085978500 : Int) - 18000 :=
  getNtpTime_exact _ 2085978500 (by decide) (by decide) (by decide)
    (by decide)

end FunnelDispenser.Time
