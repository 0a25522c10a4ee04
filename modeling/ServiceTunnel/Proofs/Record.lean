import ServiceTunnel.Annotations
import ServiceTunnel.Proofs.Lookup

/-!
# ServiceTunnel.Proofs.Record

**What is written about a tunnel is what is read back.** Recording a tunnel replaces whatever stood
under the keys of the record (`ofAnnotations_merge`), and touches no other annotation
(`get?_merge_of_notMem`). A part that is empty reads as missing (`Annotations.nonEmpty?_eq_none`).

What stands under the keys is one thing, what is read is another: a Service is blank if nothing
stands there, and it records a tunnel if all of it stands there (`Service.Blank`,
`Service.Records`).
-/

namespace ServiceTunnel

namespace Annotations

variable {annotations : Dict String String} {key : String}

theorem nonEmpty?_eq_some {value : String} : nonEmpty? annotations key = some value ↔
    annotations.get? key = some value ∧ value ≠ "" := by
  rw [nonEmpty?, Option.filter_eq_some_iff, bne_iff_ne]

theorem nonEmpty?_eq_none : nonEmpty? annotations key = none ↔
    annotations.get? key = none ∨ annotations.get? key = some "" := by
  rw [nonEmpty?]
  cases annotations.get? key <;> simp [Option.filter_eq_none_iff]

end Annotations

namespace TunnelRecord

theorem get?_toAnnotations (t : Tunnel) (key : String) :
    (ofTunnel t).toAnnotations.get? key =
      if key = Annotations.publicIp then some t.publicIp
      else if key = Annotations.ipId then some t.ipId
      else if key = Annotations.frpcDeployment then some t.deploymentName
      else if key = Annotations.machineId then some t.machineId
      else if key = Annotations.flyApp then some t.appName
      else none := by
  simp only [toAnnotations, ofTunnel, parts, List.filterMap_cons, List.filterMap_nil,
    Option.map_some, Dict.ofList, List.foldl_cons, List.foldl_nil, Dict.get?_insert,
    Std.LawfulEqCmp.compare_eq_iff_eq, Dict.get?_empty]

/-- The parts of a record that are not empty. -/
def nonEmpty (r : TunnelRecord) : TunnelRecord where
  flyApp := r.flyApp.filter (· != "")
  machineId := r.machineId.filter (· != "")
  frpcDeployment := r.frpcDeployment.filter (· != "")
  ipId := r.ipId.filter (· != "")
  publicIp := r.publicIp.filter (· != "")

/-- The record of a tunnel, read back from among other annotations. -/
theorem ofAnnotations_merge (annotations : Dict String String) (t : Tunnel) :
    ofAnnotations (annotations.merge (ofTunnel t).toAnnotations) = (ofTunnel t).nonEmpty := by
  simp only [ofAnnotations, Annotations.nonEmpty?, Dict.get?_merge, get?_toAnnotations]
  rfl

theorem flyApp_merge (annotations : Dict String String) {t : Tunnel} (happ : t.appName ≠ "") :
    (ofAnnotations (annotations.merge (ofTunnel t).toAnnotations)).flyApp = some t.appName := by
  rw [ofAnnotations_merge, nonEmpty, ofTunnel, Option.filter_some, if_pos (bne_iff_ne.mpr happ)]

/-- A tunnel all of whose parts have names is read back whole. -/
theorem nonEmpty_ofTunnel {t : Tunnel} (happ : t.appName ≠ "") (hmachine : t.machineId ≠ "")
    (hdeployment : t.deploymentName ≠ "") (hip : t.ipId ≠ "") (haddress : t.publicIp ≠ "") :
    (ofTunnel t).nonEmpty = ofTunnel t := by
  simp only [nonEmpty, ofTunnel, Option.filter_some, bne_iff_ne.mpr happ, bne_iff_ne.mpr hmachine,
    bne_iff_ne.mpr hdeployment, bne_iff_ne.mpr hip, bne_iff_ne.mpr haddress, if_true]

theorem get?_toAnnotations_of_notMem (t : Tunnel) {key : String}
    (h : key ∉ Annotations.recordKeys) : (ofTunnel t).toAnnotations.get? key = none := by
  simp only [Annotations.recordKeys, List.mem_cons, List.not_mem_nil, or_false, not_or] at h
  simp only [get?_toAnnotations, h, if_false]

theorem get?_merge_of_notMem (annotations : Dict String String) (t : Tunnel) {key : String}
    (h : key ∉ Annotations.recordKeys) :
    (annotations.merge (ofTunnel t).toAnnotations).get? key = annotations.get? key := by
  rw [Dict.get?_merge, get?_toAnnotations_of_notMem t h, Option.none_or]

end TunnelRecord

/-! ### What stands on a Service -/

/-- No part of the tunnel is empty. -/
structure Tunnel.Complete (t : Tunnel) : Prop where
  appName : t.appName ≠ ""
  machineId : t.machineId ≠ ""
  deploymentName : t.deploymentName ≠ ""
  ipId : t.ipId ≠ ""
  publicIp : t.publicIp ≠ ""

namespace Kube.Service

/-- Nothing stands under the keys of the record. -/
def Blank (s : Service) : Prop := ∀ key ∈ Annotations.recordKeys, s.annotations.get? key = none

/-- The parts of a tunnel stand under the keys of the record. -/
structure Records (s : Service) (t : Tunnel) : Prop where
  flyApp : s.annotations.get? Annotations.flyApp = some t.appName
  machineId : s.annotations.get? Annotations.machineId = some t.machineId
  frpcDeployment : s.annotations.get? Annotations.frpcDeployment = some t.deploymentName
  ipId : s.annotations.get? Annotations.ipId = some t.ipId
  publicIp : s.annotations.get? Annotations.publicIp = some t.publicIp

/-- What stands under the keys of the record is the same on both. -/
def Spared (s s' : Service) : Prop :=
  ∀ key ∈ Annotations.recordKeys, s'.annotations.get? key = s.annotations.get? key

variable {s s' : Service} {t t' : Tunnel}

theorem Blank.spared (h : s.Blank) (hs : s.Spared s') : s'.Blank :=
  fun key hkey => (hs key hkey).trans (h key hkey)

theorem Records.spared (h : s.Records t) (hs : s.Spared s') : s'.Records t where
  flyApp := (hs _ (by decide)).trans h.flyApp
  machineId := (hs _ (by decide)).trans h.machineId
  frpcDeployment := (hs _ (by decide)).trans h.frpcDeployment
  ipId := (hs _ (by decide)).trans h.ipId
  publicIp := (hs _ (by decide)).trans h.publicIp

theorem Blank.not_records (h : s.Blank) : ¬ s.Records t := by
  intro hrecords
  have hnone := h Annotations.flyApp (by decide)
  rw [hrecords.flyApp] at hnone
  cases hnone

/-- A Service records one tunnel at most. -/
theorem Records.unique (h : s.Records t) (h' : s.Records t') : t = t' := by
  have happ := h.flyApp.symm.trans h'.flyApp
  have hmachine := h.machineId.symm.trans h'.machineId
  have hname := h.frpcDeployment.symm.trans h'.frpcDeployment
  have hip := h.ipId.symm.trans h'.ipId
  have haddress := h.publicIp.symm.trans h'.publicIp
  cases t
  cases t'
  simp_all only [Option.some.injEq]

/-- What is added to a Service for a tunnel records the tunnel. -/
theorem records_merge (s : Service) (t : Tunnel) :
    (s.withAnnotations
      (s.annotations.merge (TunnelRecord.ofTunnel t).toAnnotations)).Records t := by
  have hget : ∀ key v, (TunnelRecord.ofTunnel t).toAnnotations.get? key = some v →
      (s.annotations.merge (TunnelRecord.ofTunnel t).toAnnotations).get? key = some v := by
    intro key v hv
    rw [Dict.get?_merge, hv]
    rfl
  have hparts := TunnelRecord.get?_toAnnotations t
  exact ⟨hget _ _ (hparts _), hget _ _ (hparts _), hget _ _ (hparts _), hget _ _ (hparts _),
    hget _ _ (hparts _)⟩

theorem Blank.not_provisioned (h : s.Blank) :
    (TunnelRecord.ofService s).isProvisioned = false := by
  have hnone := h Annotations.flyApp (by decide)
  simp only [TunnelRecord.ofService, TunnelRecord.ofAnnotations, TunnelRecord.isProvisioned,
    Annotations.nonEmpty?, hnone, Option.filter_none, Option.isSome_none]

/-- What stands on a Service is what is read from it, if no part of it is empty. -/
theorem Records.ofService (h : s.Records t) (ht : t.Complete) :
    TunnelRecord.ofService s = TunnelRecord.ofTunnel t := by
  rw [← TunnelRecord.nonEmpty_ofTunnel ht.appName ht.machineId ht.deploymentName ht.ipId
    ht.publicIp]
  simp only [TunnelRecord.ofService, TunnelRecord.ofAnnotations, Annotations.nonEmpty?, h.flyApp,
    h.machineId, h.frpcDeployment, h.ipId, h.publicIp]
  rfl

end Kube.Service

end ServiceTunnel
