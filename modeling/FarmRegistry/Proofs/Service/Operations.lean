import FarmRegistry.Proofs.Service.Attempts
import FarmRegistry.Service.Requests

namespace FarmRegistry

inductive Operation where
  | registerFarmer (farmerId : FarmerId)
  | create (farmId : FarmId) (request : CreateRequest)
  | reshape (request : ReshapeRequest)
  | retire (farmId : FarmId)
  | restore (farmId : FarmId)
  | erase (farmId : FarmId)
  | reassign (request : ReassignRequest)
  | reconcileFarmer (farmerId : FarmerId)
  | farm (farmId : FarmId)
  | farmer (farmerId : FarmerId)
  | overlappingFarms (request : OverlapRequest)
  | allOverlaps
  | rebuildIndex

abbrev Operation.Answer : Operation → Type
  | registerFarmer _ => Farmer
  | create _ _ => Farm
  | reshape _ => Farm
  | retire _ => Farm
  | restore _ => Farm
  | erase _ => Unit
  | reassign _ => Farm
  | reconcileFarmer _ => Farmer
  | farm _ => Farm
  | farmer _ => Farmer
  | overlappingFarms _ => List FarmId
  | allOverlaps => List OverlapPair
  | rebuildIndex => Unit

def Operation.target? : Operation → Option FarmId
  | create i _ => some i
  | reshape r => some r.farmId
  | retire i => some i
  | restore i => some i
  | erase i => some i
  | reassign r => some r.farmId
  | _ => none

namespace Service

open Work

section Runs

variable {σ : Type} (s : Service σ)

def perform : (o : Operation) → Work σ ServiceError o.Answer
  | .registerFarmer i => s.registerFarmer i
  | .create i r => s.create i r
  | .reshape r => s.reshape r
  | .retire i => s.retire i
  | .restore i => s.restore i
  | .erase i => s.erase i
  | .reassign r => s.reassign r
  | .reconcileFarmer i => s.reconcileFarmer i
  | .farm i => s.farm i
  | .farmer i => s.farmer i
  | .overlappingFarms r => s.overlappingFarms r
  | .allOverlaps => s.allOverlaps
  | .rebuildIndex => s.rebuildIndex

def after (w : World σ) (ops : List Operation) : World σ :=
  ops.foldl (fun w o => ((s.perform o).outcome w).2) w

end Runs

theorem keeps_untargeted {σ : Type} {P : σ → Prop} {s : Service σ}
    (hP : ∀ c : Call, (∀ d, c ≠ .commit d) → ∀ t, P t → P (s.store c t).state) {o : Operation}
    (ho : o.target? = none) : Keeps P (s.perform o) := by
  have hask : ∀ c : Call, (∀ d, c ≠ .commit d) → Keeps P (adapt ServiceError.ofStore (s.ask c)) :=
    fun c hc => Keeps.adapt _ (Keeps.ask (hP c hc))
  cases o with
  | registerFarmer i => exact hask _ fun _ => nofun
  | reconcileFarmer i =>
    refine Keeps.bind (hask _ fun _ => nofun) ?_
    intro farmer
    exact Keeps.bind (Keeps.tell _) fun _ => Keeps.pure farmer
  | farm i =>
    refine Keeps.bind (hask _ fun _ => nofun) ?_
    intro farm
    cases farm with
    | none => exact Keeps.refuse _
    | some f => exact Keeps.pure f
  | farmer i =>
    refine Keeps.bind (hask _ fun _ => nofun) ?_
    intro farmer
    cases farmer with
    | none => exact Keeps.refuse _
    | some f => exact Keeps.pure f
  | overlappingFarms r =>
    refine Keeps.bind (Keeps.settled _) ?_
    intro polygon
    exact keeps_overlapping (fun _ => hP _ fun _ => nofun) polygon _
  | allOverlaps =>
    refine Keeps.bind (hask _ fun _ => nofun) ?_
    intro farms
    exact Keeps.bind (Keeps.tell _) fun _ => Keeps.pure _
  | rebuildIndex =>
    refine Keeps.bind (hask _ fun _ => nofun) ?_
    intro _
    exact Keeps.tell _
  | _ => cases ho

section Keeps

variable {P : MemoryStore → Prop} {config : ServiceConfig} {jitter : Jitter} {clock : Nat → Timestamp}
variable (hP : ∀ s t, P s → s.Advances config.overlaps t → P t)

include hP

theorem keeps_runToFarm {m : Intent} (hm : m.Requested) :
    Keeps P ((MemoryStore.service config jitter clock).runToFarm m) := by
  refine Keeps.bind (keeps_run hP hm) ?_
  intro farm
  cases farm with
  | none => exact Keeps.refuse _
  | some f => exact Keeps.pure f

theorem keeps_perform (o : Operation) : Keeps P ((MemoryStore.service config jitter clock).perform o) := by
  cases o with
  | create i r =>
    refine Keeps.bind (Keeps.settled _) ?_
    intro polygon
    refine Keeps.bind (Keeps.now _) ?_
    intro now
    apply keeps_runToFarm hP
    intro f hf
    exact ⟨i, r.farmerId, polygon, r.metadata, now, (Intent.create.inj hf).symm⟩
  | reshape r =>
    refine Keeps.bind (Keeps.settled _) ?_
    intro polygon
    apply keeps_runToFarm hP
    intro f hf
    cases hf
  | retire i =>
    apply keeps_runToFarm hP
    intro f hf
    cases hf
  | restore i =>
    apply keeps_runToFarm hP
    intro f hf
    cases hf
  | erase i =>
    refine Keeps.bind (keeps_run hP ?_) fun _ => Keeps.pure ()
    intro f hf
    cases hf
  | reassign r =>
    apply keeps_runToFarm hP
    intro f hf
    cases hf
  | _ =>
    refine keeps_untargeted ?_ rfl
    intro c hc t ht
    cases c with
    | commit d => exact absurd rfl (hc d)
    | registerFarmer i => exact hP t _ ht (.register i)
    | reconcileFarmer i => exact hP t _ ht (.reconcile i)
    | _ => exact ht

theorem after_keeps {w : World MemoryStore} (hw : P w.store) (ops : List Operation) :
    P ((MemoryStore.service config jitter clock).after w ops).store := by
  unfold after
  induction ops generalizing w with
  | nil => exact hw
  | cons o ops ih => exact ih (keeps_perform hP o w hw)

end Keeps

end Service

end FarmRegistry
