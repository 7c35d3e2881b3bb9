import AttestedPayments.Key.Container
import AttestedPayments.Proofs.Der.Elements

/-!
# Containers of keys are read back

* `Algorithm.IsReadable` — the algorithms whose writing is read; `Algorithm.isReadable_curve`.

Principal results: `PublicKeyInfo.readOne_encode`, `PrivateKeyInfo.readOne_encode`.
-/

set_option autoImplicit false

namespace AttestedPayments.Key

open Der (Oid Element BitString lengthLimit)

/-! ## Algorithms -/

namespace Algorithm

/-- The algorithms whose writing is read. -/
structure IsReadable (a : Algorithm) : Prop where
  oid_accepted : Oid.ofOctets? a.oid.octets = some a.oid
  parameters : ∀ p ∈ a.parameters, p.IsReadable
  element : a.toElement.IsReadable

theorem ofElement?_toElement {a : Algorithm} (h : a.IsReadable) :
    ofElement? a.toElement = some a := by
  obtain ⟨oid, parameters⟩ := a
  have hoid : oid.toElement.IsReadable := Oid.isReadable_toElement h.oid_accepted
  have hread : Oid.ofElement? oid.toElement = some oid := Oid.ofElement?_toElement h.oid_accepted
  cases parameters with
  | none =>
    have hinside : (toElement ⟨oid, none⟩).elements? = some [oid.toElement] :=
      Element.elements?_sequence (List.forall_mem_singleton.mpr hoid)
    simp only [ofElement?, hinside, hread, Option.map_some]
  | some p =>
    have hboth : ∀ e ∈ [oid.toElement, p], e.IsReadable :=
      List.forall_mem_cons.mpr ⟨hoid, List.forall_mem_singleton.mpr (h.parameters p rfl)⟩
    have hinside : (toElement ⟨oid, some p⟩).elements? = some [oid.toElement, p] :=
      Element.elements?_sequence hboth
    simp only [ofElement?, hinside, hread, Option.map_some]

theorem isReadable_curve : curve.IsReadable where
  oid_accepted := by decide +kernel
  parameters p hp := by
    cases hp
    exact ⟨by decide, by decide +kernel⟩
  element := ⟨by decide, by decide +kernel⟩

end Algorithm

/-! ## Containers -/

variable {algorithm : Algorithm} {octets : Bytes}

/-- **The container of a public key is read back.** -/
theorem PublicKeyInfo.readOne_encode (h : algorithm.IsReadable)
    (hlen : algorithm.toElement.content.length + octets.length + 20 < lengthLimit) :
    ∃ e, Element.readOne (PublicKeyInfo.mk algorithm (.whole octets)).toElement.encode = some e ∧
      ofElement? e = some ⟨algorithm, .whole octets⟩ := by
  have hbits : (BitString.whole octets).toElement.IsReadable :=
    BitString.isReadable_whole (by omega)
  have helements : ∀ e ∈ [algorithm.toElement, (BitString.whole octets).toElement], e.IsReadable :=
    List.forall_mem_cons.mpr ⟨h.element, List.forall_mem_singleton.mpr hbits⟩
  have hcontent : (BitString.whole octets).toElement.content.length = octets.length + 1 := rfl
  refine ⟨_, Element.readOne_encode (Element.isReadable_sequence helements ?_), ?_⟩
  · simp only [Element.roomFor, hcontent]
    omega
  · have hinside : (PublicKeyInfo.mk algorithm (.whole octets)).toElement.elements? =
        some [algorithm.toElement, (BitString.whole octets).toElement] :=
      Element.elements?_sequence helements
    simp only [ofElement?, hinside, Algorithm.ofElement?_toElement h, BitString.ofElement?_whole]

/-- **The container of a private key is read back.** -/
theorem PrivateKeyInfo.readOne_encode (h : algorithm.IsReadable)
    (hlen : algorithm.toElement.content.length + octets.length + 20 < lengthLimit) :
    ∃ e, Element.readOne (PrivateKeyInfo.mk algorithm octets).toElement.encode = some e ∧
      ofElement? e = some ⟨algorithm, octets⟩ := by
  have hoctets : (Element.ofOctets octets).IsReadable := Element.isReadable_ofOctets (by omega)
  have helements : ∀ e ∈ [Element.small 0, algorithm.toElement, Element.ofOctets octets],
      e.IsReadable :=
    List.forall_mem_cons.mpr ⟨Element.isReadable_small 0,
      List.forall_mem_cons.mpr ⟨h.element, List.forall_mem_singleton.mpr hoctets⟩⟩
  have hsmall : (Element.small 0).content.length = 1 := rfl
  have hcontent : (Element.ofOctets octets).content.length = octets.length := rfl
  have hversion : (Element.small 0).natural? = some 0 := by decide
  refine ⟨_, Element.readOne_encode (Element.isReadable_sequence helements ?_), ?_⟩
  · simp only [Element.roomFor, hsmall, hcontent]
    omega
  · have hinside : (PrivateKeyInfo.mk algorithm octets).toElement.elements? =
        some [Element.small 0, algorithm.toElement, Element.ofOctets octets] :=
      Element.elements?_sequence helements
    simp only [ofElement?, hinside, hversion, Algorithm.ofElement?_toElement h,
      Element.octets?_ofOctets]
    exact if_pos rfl

end AttestedPayments.Key
