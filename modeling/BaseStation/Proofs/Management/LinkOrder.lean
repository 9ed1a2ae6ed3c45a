import BaseStation.Proofs.Management.BscView
import BaseStation.Proofs.Management.LinkUps

namespace BaseStation

open Management

def LinkControl.isUp : LinkControl → Bool
  | phyLinkUp _ | rslLinkUp _ | omlLinkUp => true
  | phyLinkDown _ | abisLinkFailed => false

namespace Transceiver

variable {need up : Bool} {p : Half} {t : Transceiver}

def isLinked (dummy : Bool) (t : Transceiver) : Bool := (t.rslUp || dummy) && (t.phyUp || dummy)

theorem isLinked_withLinks (rsl phy dummy : Bool) :
    (t.withLinks rsl phy).isLinked dummy = ((rsl || dummy) && (phy || dummy)) := rfl

theorem isLinked_install (dummy : Bool) : (t.install need p).isLinked dummy = t.isLinked dummy := by
  unfold install
  split
  · cases p <;> rfl
  · rfl

theorem isLinked_enable (dummy : Bool) : (t.enable need up p).isLinked dummy = t.isLinked dummy := by
  unfold enable
  split
  · cases p <;> rfl
  · rfl

end Transceiver

namespace Tree

variable {tree : Tree} {bts trx depth : Nat} {t : Transceiver} {p : Half} {event : Event}

section transceiver

theorem act?_still {action : Action} (still : action = .reportSoftware ∨ action = .repeatState) (t : Transceiver)
    (need : Bool) (p : Half) : t.act? need p action = some t := by
  rcases still with rfl | rfl <;> cases p <;> rfl

theorem turns_install {need : Bool} (uninstalled : (t.part p).phase = .notInstalled)
    (below : p = .baseband → ∀ channel ∈ t.channels, channel.phase = .notInstalled) :
    Turns depth bts trx p need t
      (.reportSoftware :: .become .offline :: (t.wards bts trx p).map (.tell · .swAct))
      (t.install need p) := by
  let t' := t.setPart ((t.part p).entered p.cls .offline) p
  have same : t'.channels = t.channels := t.channels_setPart _ p
  have tell : Turns depth bts trx p need t' ((t.wards bts trx p).map (.tell · .swAct))
      (t'.passDown need .swAct p) := by
    rw [Transceiver.wards_congr p same]
    refine Turns.tell rfl ?_
    intro baseband channel mem
    rw [below baseband channel (same ▸ mem)]
    rfl
  have installed : t.install need p = t'.passDown need .swAct p := if_pos uninstalled
  rw [installed]
  have report : Turns depth bts trx p need t [.reportSoftware] t :=
    Turns.act (act?_still (.inl rfl) t need p)
  exact (report.append (Turns.act (Transceiver.act?_install need uninstalled))).append tell

theorem offer?_of_turns {t' : Transceiver} (found : tree.transceiver? bts trx = some t)
    (accepted : Machine.accepts p.cls (t.part p).phase event.kind = true)
    (turns : Turns depth bts trx p tree.channelsNeedCarrier t
      (reactionIn tree (p.id bts trx) (t.part p) event) t') :
    offer? (hear? (depth + 2)) (p.id bts trx) event tree = some (tree.putTransceiver bts trx t') := by
  have place := get?_part found p
  have accepted : Machine.accepts (p.id bts trx).objectClass (t.part p).phase event.kind = true := by
    rw [p.objectClass_id]
    exact accepted
  simp only [offer?, place, accepted, Option.bind_eq_bind, Option.bind_some, if_true]
  exact hear?_of_reacts place (turns tree found rfl) accepted

theorem offer?_of_refused (hear : Hearer) (found : tree.transceiver? bts trx = some t)
    (refused : Machine.accepts p.cls (t.part p).phase event.kind = false) :
    offer? hear (p.id bts trx) event tree = some tree := by
  simp only [offer?, get?_part found p, p.objectClass_id, refused, Option.bind_eq_bind, Option.bind_some]
  rfl

theorem offer?_swAct (depth : Nat) (found : tree.transceiver? bts trx = some t)
    (sound : t.Sound tree.channelsNeedCarrier) (p : Half) :
    offer? (hear? (depth + 2)) (p.id bts trx) .swAct tree =
      some (tree.putTransceiver bts trx (t.install tree.channelsNeedCarrier p)) := by
  by_cases uninstalled : (t.part p).phase = .notInstalled
  · have below : p = .baseband → ∀ channel ∈ t.channels, channel.phase = .notInstalled := by
      rintro rfl
      exact sound.uninstalled uninstalled
    refine offer?_of_turns found ?_ ?_
    · rw [uninstalled]
      cases p <;> rfl
    · have installs : Turns depth bts trx p tree.channelsNeedCarrier t _ _ :=
        turns_install uninstalled below
      rw [reactionIn, children_part found p]
      cases p <;> exact installs
  · have stays : t.install tree.channelsNeedCarrier p = t := if_neg uninstalled
    rw [stays, putTransceiver_self found]
    refine offer?_of_refused _ found ?_
    rw [← Bool.not_eq_true]
    exact fun accepted => uninstalled (Machine.notInstalled_of_swAct accepted)

theorem offer?_linkUp (depth : Nat) (found : tree.transceiver? bts trx = some t) (p : Half)
    (news : event = .rslUp ∨ event = .phyLinkUp) :
    offer? (hear? (depth + 2)) (p.id bts trx) event tree = some (tree.putTransceiver bts trx
      (t.enable tree.channelsNeedCarrier (linked tree (p.id bts trx)) p)) := by
  cases accepted : Machine.accepts p.cls (t.part p).phase event.kind with
  | true =>
    refine offer?_of_turns found accepted ?_
    have reacts : reactionIn tree (p.id bts trx) (t.part p) event =
        if (t.part p).phase = .offline ∧ linked tree (p.id bts trx) ∧ (t.part p).started then
          [.become .enabled] else [] := by
      rcases news with rfl | rfl <;> rfl
    rw [reacts]
    unfold Transceiver.enable
    split
    · rename_i due
      exact Turns.act (Transceiver.act?_enable _ due.1)
    · exact Turns.nil
  | false =>
    have idle : t.enable tree.channelsNeedCarrier (linked tree (p.id bts trx)) p = t := by
      refine if_neg ?_
      rintro ⟨offline, _⟩
      rw [offline] at accepted
      rcases news with rfl | rfl <;> cases p <;> cases accepted
    rw [idle, putTransceiver_self found]
    exact offer?_of_refused _ found accepted

theorem offered_omlUp_channel (supported : Bool) (channel : ManagedObject) :
    channel.offered .channel supported .omlUp = channel := by
  obtain ⟨phase, published, attributesSet, started, attributes⟩ := channel
  cases phase <;> rfl

theorem offer?_omlUp (depth : Nat) (found : tree.transceiver? bts trx = some t) (p : Half) :
    offer? (hear? (depth + 2)) (p.id bts trx) .omlUp tree = some tree := by
  cases accepted : Machine.accepts p.cls (t.part p).phase .omlUp with
  | true =>
    have same : t.passDown tree.channelsNeedCarrier .omlUp p = t := by
      cases p with
      | carrier => rfl
      | baseband =>
        have channels : t.channels.map
            (ManagedObject.offered .channel (t.canStart tree.channelsNeedCarrier) .omlUp) = t.channels :=
          List.map_id'' (offered_omlUp_channel _) _
        rw [Transceiver.passDown, Transceiver.channelsHear, channels]
    have again : Turns depth bts trx p tree.channelsNeedCarrier t [.repeatState] t :=
      Turns.act (act?_still (.inr rfl) t _ p)
    have offers : Turns depth bts trx p tree.channelsNeedCarrier t
        ((t.wards bts trx p).map (.offer · .omlUp)) (t.passDown tree.channelsNeedCarrier .omlUp p) :=
      Turns.offer rfl
    rw [same] at offers
    refine (offer?_of_turns found accepted ?_).trans (congrArg some (putTransceiver_self found))
    rw [reactionIn, children_part found p]
    cases p <;> exact again.append offers
  | false => exact offer?_of_refused _ found accepted

end transceiver

section root

theorem hearEach?_omlUp (depth : Nat) (ids : List ObjectId)
    (present : ∀ id ∈ ids, ∃ p : Half, ∃ trx, id = p.id 0 trx ∧ trx < tree.transceivers.length) :
    hearEach? (offer? (hear? (depth + 2))) ids .omlUp tree = some tree := by
  induction ids with
  | nil => rfl
  | cons id rest ih =>
    obtain ⟨p, trx, rfl, bound⟩ := present id List.mem_cons_self
    have found : tree.transceiver? 0 trx = some tree.transceivers[trx] := List.getElem?_eq_getElem bound
    rw [hearEach?, List.foldlM_cons, offer?_omlUp depth found p]
    exact ih fun id mem => present id (List.mem_cons_of_mem _ mem)

def omlLinkUp (tree : Tree) : Tree :=
  if tree.siteManager.phase = .notInstalled then
    { tree with
      siteManager := tree.siteManager.entered .siteManager .offline
      gprsNse := tree.gprsNse.offered .gprsNse tree.bts.isEnabled .omlUp
      bts := tree.bts.entered .bts .offline }
  else tree

theorem bts_install (depth : Nat) (uninstalled : tree.bts.phase = .notInstalled) :
    hear? (depth + 3) (.bts 0) .omlUp tree =
      some { tree with bts := tree.bts.entered .bts .offline } := by
  let tree' : Tree := { tree with bts := tree.bts.entered .bts .offline }
  have accepted : Machine.accepts .bts tree.bts.phase .omlUp = true := by
    rw [uninstalled]
    rfl
  have alone : (Action.become .offline).alone? .bts tree.bts = some (tree.bts.entered .bts .offline) :=
    if_pos (by rw [uninstalled]; rfl)
  have report : act? (hear? (depth + 2)) (.bts 0) tree .reportSoftware = some tree := act?_bts _ tree rfl
  have install : act? (hear? (depth + 2)) (.bts 0) tree (.become .offline) = some tree' := by
    rw [act?_bts _ tree alone, uninstalled]
    exact heed?_none ..
  have offers : hearEach? (offer? (hear? (depth + 2))) (tree.transceiverIds 0) .omlUp tree' = some tree' :=
    hearEach?_omlUp depth _ fun id mem => mem_transceiverIds mem
  refine hear?_of_reacts rfl ?_ accepted
  unfold Reacts
  simp only [reactionIn, reaction, ObjectId.objectClass, uninstalled]
  exact (foldlM_cons_some report).trans ((foldlM_cons_some install).trans ((foldlM_offer ..).trans offers))

theorem offer?_root (depth : Nat) (sound : tree.Sound) :
    offer? (hear? (depth + 4)) .siteManager .omlUp tree = some tree.omlLinkUp := by
  have found : tree.get? .siteManager = some tree.siteManager := rfl
  unfold omlLinkUp
  by_cases uninstalled : tree.siteManager.phase = .notInstalled
  · obtain ⟨nseDown, btsDown⟩ := sound.uninstalled uninstalled
    let rooted : Tree := { tree with siteManager := tree.siteManager.entered .siteManager .offline }
    let served : Tree := { rooted with gprsNse := tree.gprsNse.offered .gprsNse tree.bts.isEnabled .omlUp }
    have accepted : Machine.accepts .siteManager tree.siteManager.phase .omlUp = true := by
      rw [uninstalled]
      rfl
    have alone : (Action.become .offline).alone? .siteManager tree.siteManager =
        some (tree.siteManager.entered .siteManager .offline) := if_pos (by rw [uninstalled]; rfl)
    have report : act? (hear? (depth + 3)) .siteManager tree .reportSoftware = some tree :=
      act?_siteManager _ tree rfl
    have install : act? (hear? (depth + 3)) .siteManager tree (.become .offline) = some rooted :=
      act?_siteManager _ tree alone
    have tellNse : act? (hear? (depth + 3)) .siteManager rooted (.tell .gprsNse .omlUp) = some served :=
      hear?_gprsNse (depth + 2) rfl (by rw [show rooted.gprsNse.phase = _ from nseDown]; rfl)
    have tellBts : act? (hear? (depth + 3)) .siteManager served (.tell (.bts 0) .omlUp) =
        some { served with bts := tree.bts.entered .bts .offline } := bts_install depth btsDown
    rw [if_pos uninstalled]
    simp only [offer?, found, ObjectId.objectClass, Option.bind_eq_bind, Option.bind_some]
    refine (if_pos accepted).trans (hear?_of_reacts found ?_ accepted)
    exact (foldlM_cons_some report).trans ((foldlM_cons_some install).trans
      ((foldlM_cons_some tellNse).trans (foldlM_cons_some tellBts)))
  · have refused : Machine.accepts .siteManager tree.siteManager.phase .omlUp = false := by
      cases phase : tree.siteManager.phase <;> first | rfl | exact absurd phase uninstalled
    rw [if_neg uninstalled]
    simp only [offer?, found, ObjectId.objectClass, Option.bind_eq_bind, Option.bind_some]
    exact if_neg (by rw [show Event.omlUp.kind = .omlUp from rfl, refused]; decide)

end root

section news

def offerAll? (id : ObjectId) (events : List Event) (tree : Tree) : Option Tree :=
  events.foldlM (fun tree event => offer? (hear? nesting) id event tree) tree

theorem linked_of_found (found : tree.transceiver? bts trx = some t) (p : Half) :
    linked tree (p.id bts trx) = t.isLinked tree.dummyLinks := by
  cases p <;> simp only [Half.id, linked, links_of_found found, Transceiver.isLinked]

theorem offerAll?_linkUp (found : tree.transceiver? bts trx = some t) (p : Half)
    (news : event = .rslUp ∨ event = .phyLinkUp) :
    offerAll? (p.id bts trx) [event] tree = some (tree.putTransceiver bts trx
      (t.enable tree.channelsNeedCarrier (t.isLinked tree.dummyLinks) p)) := by
  have told : offer? (hear? nesting) (p.id bts trx) event tree = _ := offer?_linkUp 2 found p news
  rw [linked_of_found found] at told
  rw [offerAll?, List.foldlM_cons, told]
  rfl

theorem offerAll?_install (found : tree.transceiver? bts trx = some t)
    (sound : t.Sound tree.channelsNeedCarrier) (p : Half) :
    offerAll? (p.id bts trx) [.swAct, .phyLinkUp] tree = some (tree.putTransceiver bts trx
      ((t.install tree.channelsNeedCarrier p).enable tree.channelsNeedCarrier
        (t.isLinked tree.dummyLinks) p)) := by
  let installed := t.install tree.channelsNeedCarrier p
  let tree' := tree.putTransceiver bts trx installed
  have first : offer? (hear? nesting) (p.id bts trx) .swAct tree = some tree' := offer?_swAct 2 found sound p
  have dummy : tree'.dummyLinks = tree.dummyLinks := dummyLinks_modifyTransceiver ..
  have next := offerAll?_linkUp (transceiver?_putTransceiver_self installed found) p (.inr rfl)
  rw [channelsNeedCarrier_putTransceiver, putTransceiver_putTransceiver, dummy,
    Transceiver.isLinked_install] at next
  rw [offerAll?, List.foldlM_cons, first]
  exact next

theorem tellTransceiver_ends {events : List Event} {site : Site} {middle tree' : Tree}
    (carrier : offerAll? (.radioCarrier 0 trx) events site.tree = some middle)
    (baseband : offerAll? (.basebandTransceiver 0 trx) events middle = some tree') :
    Ends (Manager.tellTransceiver trx events site) tree' site.pending := by
  have told {id : ObjectId} {site : Site} {tree : Tree} (h : offerAll? id events site.tree = some tree) :=
    ends_foldlM (fun event site tree h => dispatch_follows.offer id event site tree h) events h
  refine (told carrier).bind ?_
  rintro site' rfl waiting
  rw [← waiting]
  exact told baseband

theorem rslUp_ends (site : Site) (found : site.tree.transceiver? 0 trx = some t) :
    Ends (Manager.tellTransceiver trx [.rslUp] site)
      (site.tree.putTransceiver 0 trx
        (t.wake site.tree.channelsNeedCarrier (t.isLinked site.tree.dummyLinks))) site.pending := by
  let woken := t.enable site.tree.channelsNeedCarrier (t.isLinked site.tree.dummyLinks) .carrier
  let middle := site.tree.putTransceiver 0 trx woken
  have carrier : offerAll? (.radioCarrier 0 trx) [.rslUp] site.tree = some middle :=
    offerAll?_linkUp found .carrier (.inl rfl)
  have dummy : middle.dummyLinks = site.tree.dummyLinks := dummyLinks_modifyTransceiver ..
  have place : middle.transceiver? 0 trx = some woken := transceiver?_putTransceiver_self woken found
  have news : Event.rslUp = .rslUp ∨ Event.rslUp = .phyLinkUp := .inl rfl
  have baseband := offerAll?_linkUp place .baseband news
  rw [channelsNeedCarrier_putTransceiver, putTransceiver_putTransceiver, dummy,
    Transceiver.isLinked_enable] at baseband
  exact tellTransceiver_ends carrier baseband

theorem phyUp_ends (site : Site) (found : site.tree.transceiver? 0 trx = some t)
    (sound : t.Sound site.tree.channelsNeedCarrier) :
    Ends (Manager.tellTransceiver trx [.swAct, .phyLinkUp] site)
      (site.tree.putTransceiver 0 trx
        (t.rouse site.tree.channelsNeedCarrier (t.isLinked site.tree.dummyLinks))) site.pending := by
  let roused := (t.install site.tree.channelsNeedCarrier .carrier).enable site.tree.channelsNeedCarrier
    (t.isLinked site.tree.dummyLinks) .carrier
  let middle := site.tree.putTransceiver 0 trx roused
  have carrier : offerAll? (.radioCarrier 0 trx) [.swAct, .phyLinkUp] site.tree = some middle :=
    offerAll?_install found sound .carrier
  have dummy : middle.dummyLinks = site.tree.dummyLinks := dummyLinks_modifyTransceiver ..
  have place : middle.transceiver? 0 trx = some roused := transceiver?_putTransceiver_self roused found
  have sound' : roused.Sound middle.channelsNeedCarrier := by
    rw [channelsNeedCarrier_putTransceiver]
    exact (sound.installed .carrier).enabled _ .carrier
  have baseband := offerAll?_install place sound' .baseband
  rw [channelsNeedCarrier_putTransceiver, putTransceiver_putTransceiver, dummy, Transceiver.isLinked_enable,
    Transceiver.isLinked_install] at baseband
  exact tellTransceiver_ends carrier baseband

def comeUp : LinkControl → Tree → Tree
  | .phyLinkUp trx, tree =>
    tree.modifyTransceiver 0 trx (Transceiver.phyLinkUp tree.channelsNeedCarrier tree.dummyLinks)
  | .rslLinkUp trx, tree =>
    tree.modifyTransceiver 0 trx (Transceiver.rslLinkUp tree.channelsNeedCarrier tree.dummyLinks)
  | .omlLinkUp, tree => tree.omlLinkUp
  | .phyLinkDown _, tree | .abisLinkFailed, tree => tree

theorem modifyTransceiver_put {f g : Transceiver → Transceiver} {t' : Transceiver}
    (found : tree.transceiver? 0 trx = some t) (same : t' = g t) :
    (tree.modifyTransceiver 0 trx f).putTransceiver 0 trx t' = tree.modifyTransceiver 0 trx g :=
  (modifyTransceiver_modifyTransceiver ..).trans (modifyTransceiver_congr found same)

theorem rslLinkUp_ends (hardware : Hardware) (found : tree.transceiver? 0 trx = some t) :
    Ends (Manager.tellTransceiver trx [.rslUp] (.quiet (tree.setRsl 0 trx true) hardware))
      (tree.comeUp (.rslLinkUp trx)) [] := by
  have place : (tree.setRsl 0 trx true).transceiver? 0 trx = some (t.withLinks true t.phyUp) := by
    rw [setRsl, transceiver?_modifyTransceiver_self, found]
    rfl
  have ends := rslUp_ends (.quiet (tree.setRsl 0 trx true) hardware) place
  have same : (t.withLinks true t.phyUp).wake tree.channelsNeedCarrier
      ((t.withLinks true t.phyUp).isLinked tree.dummyLinks) =
        t.rslLinkUp tree.channelsNeedCarrier tree.dummyLinks := by
    rw [Transceiver.rslLinkUp, Transceiver.isLinked_withLinks, Bool.true_or, Bool.true_and]
  have after := modifyTransceiver_put (f := fun t => { t with rslUp := true }) found same
  rw [comeUp, ← after]
  exact ends

theorem phyLinkUp_ends (hardware : Hardware) (found : tree.transceiver? 0 trx = some t) (sound : tree.Sound) :
    Ends (Manager.tellTransceiver trx [.swAct, .phyLinkUp] (.quiet (tree.setPhy 0 trx true) hardware))
      (tree.comeUp (.phyLinkUp trx)) [] := by
  have place : (tree.setPhy 0 trx true).transceiver? 0 trx = some (t.withLinks t.rslUp true) := by
    rw [setPhy, transceiver?_modifyTransceiver_self, found]
    rfl
  have sound' := (sound.setPhy 0 trx true).transceiver place
  have ends := phyUp_ends (.quiet (tree.setPhy 0 trx true) hardware) place sound'
  have same : (t.withLinks t.rslUp true).rouse tree.channelsNeedCarrier
      ((t.withLinks t.rslUp true).isLinked tree.dummyLinks) =
        t.phyLinkUp tree.channelsNeedCarrier tree.dummyLinks := by
    rw [Transceiver.phyLinkUp, Transceiver.isLinked_withLinks, Bool.true_or, Bool.and_true]
  have after := modifyTransceiver_put (f := fun t => { t with phyUp := true }) found same
  rw [comeUp, ← after]
  exact ends

theorem modifyTransceiver_comm {f g : Transceiver → Transceiver} {trx' : Nat}
    (comm : trx = trx' → ∀ t, tree.transceiver? 0 trx = some t → g (f t) = f (g t)) :
    (tree.modifyTransceiver 0 trx f).modifyTransceiver 0 trx' g =
      (tree.modifyTransceiver 0 trx' g).modifyTransceiver 0 trx f := by
  have same : (tree.transceivers.modify trx f).modify trx' g = (tree.transceivers.modify trx' g).modify trx f := by
    apply List.ext_getElem?
    intro i
    simp only [List.getElem?_modify]
    cases found : tree.transceivers[i]? with
    | none => rfl
    | some t =>
      by_cases first : trx = i <;> by_cases second : trx' = i <;> simp [first, second]
      refine comm (first.trans second.symm) t ?_
      rw [first]
      exact found
  simp only [modifyTransceiver, if_true, same]

theorem channelsNeedCarrier_modifyTransceiver (tree : Tree) (bts trx : Nat) (f : Transceiver → Transceiver) :
    (tree.modifyTransceiver bts trx f).channelsNeedCarrier = tree.channelsNeedCarrier := by
  unfold modifyTransceiver
  split <;> rfl

theorem omlLinkUp_modifyTransceiver (f : Transceiver → Transceiver) :
    (tree.modifyTransceiver 0 trx f).omlLinkUp = tree.omlLinkUp.modifyTransceiver 0 trx f := by
  simp only [omlLinkUp, modifyTransceiver, if_true]
  split <;> rfl

theorem comeUp_omlLinkUp (control : LinkControl) :
    tree.omlLinkUp.comeUp control = (tree.comeUp control).omlLinkUp := by
  have flags : tree.omlLinkUp.channelsNeedCarrier = tree.channelsNeedCarrier ∧
      tree.omlLinkUp.dummyLinks = tree.dummyLinks := by
    unfold omlLinkUp
    split <;> exact ⟨rfl, rfl⟩
  cases control with
  | phyLinkUp trx | rslLinkUp trx =>
    simp only [comeUp, flags]
    exact (omlLinkUp_modifyTransceiver _).symm
  | omlLinkUp | phyLinkDown trx | abisLinkFailed => rfl

theorem isSome_modifyTransceiver (tree : Tree) (trx trx' : Nat) (f : Transceiver → Transceiver) :
    ((tree.modifyTransceiver 0 trx f).transceiver? 0 trx').isSome = (tree.transceiver? 0 trx').isSome := by
  by_cases same : trx = trx'
  · rw [← same, transceiver?_modifyTransceiver_self, Option.isSome_map]
  · rw [transceiver?_modifyTransceiver_of_ne _ _ (.inr same)]

theorem isSome_comeUp (tree : Tree) (control : LinkControl) (trx : Nat) :
    ((tree.comeUp control).transceiver? 0 trx).isSome = (tree.transceiver? 0 trx).isSome := by
  cases control with
  | phyLinkUp _ | rslLinkUp _ => exact isSome_modifyTransceiver ..
  | phyLinkDown _ | abisLinkFailed => rfl
  | omlLinkUp =>
    simp only [comeUp, omlLinkUp]
    split <;> rfl

theorem comeUp_comm (sound : tree.Sound) (first second : LinkControl) :
    (tree.comeUp first).comeUp second = (tree.comeUp second).comeUp first := by
  cases first with
  | phyLinkDown _ | abisLinkFailed => rfl
  | omlLinkUp => exact comeUp_omlLinkUp second
  | phyLinkUp trx =>
    cases second with
    | phyLinkDown _ | abisLinkFailed => rfl
    | omlLinkUp => exact (comeUp_omlLinkUp (.phyLinkUp trx)).symm
    | phyLinkUp trx' =>
      simp only [comeUp, channelsNeedCarrier_modifyTransceiver, dummyLinks_modifyTransceiver]
      exact modifyTransceiver_comm fun _ _ _ => rfl
    | rslLinkUp trx' =>
      simp only [comeUp, channelsNeedCarrier_modifyTransceiver, dummyLinks_modifyTransceiver]
      exact modifyTransceiver_comm fun _ t found =>
        Transceiver.phyLinkUp_rslLinkUp (sound.transceiver found) _
  | rslLinkUp trx =>
    cases second with
    | phyLinkDown _ | abisLinkFailed => rfl
    | omlLinkUp => exact (comeUp_omlLinkUp (.rslLinkUp trx)).symm
    | rslLinkUp trx' =>
      simp only [comeUp, channelsNeedCarrier_modifyTransceiver, dummyLinks_modifyTransceiver]
      exact modifyTransceiver_comm fun _ _ _ => rfl
    | phyLinkUp trx' =>
      simp only [comeUp, channelsNeedCarrier_modifyTransceiver, dummyLinks_modifyTransceiver]
      exact modifyTransceiver_comm fun _ t found =>
        (Transceiver.phyLinkUp_rslLinkUp (sound.transceiver found) _).symm

end news

end Tree

def Event.sparesHardware : Event → Bool
  | .shutdownFinish | .rxSetAttr _ => false
  | _ => true

namespace Management

section hardware

variable {id : ObjectId} {event : Event} {site site' : Site} {dispatch : Dispatcher}

def KeepsHardware (dispatch : Dispatcher) : Prop :=
  ∀ id event site site', event.sparesHardware = true → dispatch id event site = .ok site' →
    site'.hardware = site.hardware

theorem hardware_chains : Chains fun site site' => site'.hardware = site.hardware where
  refl _ := rfl
  trans first last := last.trans first

theorem KeepsHardware.offer (keeps : KeepsHardware dispatch) : KeepsHardware (dispatchIfAccepted dispatch) := by
  intro id event site site' spares h
  exact hardware_chains.offer (fun site' => keeps id event site site' spares) h

theorem notice?_sparesHardware {cls : ObjectClass} {previous target : Phase}
    (h : notice? cls previous target = some event) : event.sparesHardware = true := by
  cases cls <;> cases previous <;> cases target <;> cases h <;> rfl

theorem become_keepsHardware (keeps : KeepsHardware dispatch) {target : Phase} (stays : target ≠ .notInstalled)
    (h : changePhaseWith dispatch id target site = .ok site') : site'.hardware = site.hardware := by
  obtain ⟨object, found, mayMove⟩ := found_of_changePhaseWith h
  rw [changePhaseWith_of_found dispatch found mayMove] at h
  have settled : (site.settle id object target).hardware = site.hardware := by
    cases id <;> cases target <;> first | rfl | exact absurd rfl stays
  have told : site'.hardware = (site.settle id object target).hardware :=
    hardware_chains.notice (fun id' event site site' notice =>
      keeps id' event site site' (notice?_sparesHardware notice)) h
  exact told.trans settled

theorem KeepsHardware.act (keeps : KeepsHardware dispatch) {action : Action} (due : action.DueTo event)
    (spares : event.sparesHardware = true) (h : action.run dispatch id site = .ok site') :
    site'.hardware = site.hardware := by
  cases due with
  | tell other event => exact keeps other event site site' spares h
  | offer other event => exact keeps.offer other event site site' spares h
  | become event stays => exact become_keepsHardware keeps stays h
  | uninstall | apply _ | keep _ => cases spares
  | reportSoftware event | start =>
    cases h
    rfl
  | announceShutdown =>
    obtain ⟨object, found, _⟩ := Site.bind_object h
    rw [Action.run, publish_of_found found] at h
    cases h
    rfl
  | startConfigured =>
    obtain ⟨object, _, h⟩ := Site.bind_object h
    split at h <;> cases h <;> rfl
  | repeatState | acknowledge | refuse _ =>
    obtain ⟨object, _, h⟩ := Site.bind_object h
    cases h
    rfl

theorem dispatchWithin_keepsHardware (depth : Nat) : KeepsHardware (dispatchWithin depth) := by
  induction depth with
  | zero =>
    intro id event site site' _ h
    cases h
  | succ depth ih =>
    intro id event site site' spares h
    obtain ⟨object, _, _, h⟩ := performed_of_dispatchWithin h
    have due := reaction_dueTo id.objectClass (supported site.tree id) (linked site.tree id)
      (children site.tree id) object event
    have kept : site'.hardware = (site.record (.dispatched id event.kind)).hardware :=
      hardware_chains.foldlM _ (fun action mem _ _ h => ih.act (due action mem) spares h) h
    exact kept

theorem dispatch_keepsHardware : KeepsHardware Management.dispatch := dispatchWithin_keepsHardware nesting

end hardware

end Management

namespace Manager

variable {manager : Manager} {flags : LinkFlags}

def flagsUp (tree : Tree) (flags : LinkFlags) : LinkControl → LinkFlags
  | .phyLinkUp trx => if (tree.transceiver? 0 trx).isSome then { flags with phyLinkUp := true } else flags
  | .omlLinkUp => { flags with omlLinkUp := true }
  | .rslLinkUp _ | .phyLinkDown _ | .abisLinkFailed => flags

theorem flagsUp_congr {tree tree' : Tree} (flags : LinkFlags) (control : LinkControl)
    (same : ∀ trx, (tree'.transceiver? 0 trx).isSome = (tree.transceiver? 0 trx).isSome) :
    flagsUp tree' flags control = flagsUp tree flags control := by
  cases control <;> simp only [flagsUp, same]

theorem flagsUp_comm (tree : Tree) (flags : LinkFlags) (first second : LinkControl) :
    flagsUp tree (flagsUp tree flags first) second = flagsUp tree (flagsUp tree flags second) first := by
  cases first <;> cases second <;> grind [flagsUp]

def Settles (manager : Manager) (outcome : Except Fault (Effect Manager)) (tree : Tree) (flags : LinkFlags) : Prop :=
  ∃ effect, outcome = .ok effect ∧ effect.state.tree = tree ∧ effect.state.hardware = manager.hardware ∧
    effect.flags = flags

theorem run_settles (manager : Manager) {step : Step} {tree : Tree} (flags : LinkFlags) (time : FrameTime)
    (ends : Ends (step (.quiet manager.tree manager.hardware)) tree [])
    (keeps : ∀ site, step (.quiet manager.tree manager.hardware) = .ok site → site.hardware = manager.hardware) :
    manager.Settles (manager.run flags time step) tree flags := by
  obtain ⟨site, ran, same, idle⟩ := ends
  exact ⟨_, run_of_ok flags time ran (runPending_idle idle), same, keeps site ran, rfl⟩

theorem receiveLink_settles (flags : LinkFlags) {control : LinkControl} (time : FrameTime) (sound : manager.tree.Sound)
    (up : control.isUp = true) :
    manager.Settles (manager.receiveLink flags time control) (manager.tree.comeUp control)
      (flagsUp manager.tree flags control) := by
  have told (trx : Nat) {events : List Event} {site site' : Site}
      (spare : ∀ event ∈ events, event.sparesHardware = true)
      (h : tellTransceiver trx events site = .ok site') : site'.hardware = site.hardware :=
    hardware_chains.tellTransceiver
      (fun event mem id site site' => dispatch_keepsHardware id event site site' (spare event mem)) h
  rw [receiveLink_eq]
  cases control with
  | phyLinkDown _ | abisLinkFailed => cases up
  | omlLinkUp =>
    have ends := dispatch_follows.offer .siteManager .omlUp (.quiet manager.tree manager.hardware) _
      (Tree.offer?_root 0 sound)
    exact run_settles manager _ time ends fun site h =>
      dispatch_keepsHardware.offer .siteManager .omlUp _ site rfl h
  | phyLinkUp trx =>
    dsimp only
    by_cases known : (manager.tree.transceiver? 0 trx).isSome = true
    · obtain ⟨t, found⟩ := Option.isSome_iff_exists.mp known
      rw [if_pos known, flagsUp, if_pos known]
      exact run_settles { manager with tree := manager.tree.setPhy 0 trx true } _ time
        (Tree.phyLinkUp_ends manager.hardware found sound) fun site h => told trx (by decide) h
    · rw [if_neg known, flagsUp, if_neg known]
      have absent := Option.not_isSome_iff_eq_none.mp known
      exact ⟨_, rfl, (Tree.modifyTransceiver_of_none absent).symm, rfl, rfl⟩
  | rslLinkUp trx =>
    dsimp only
    by_cases known : (manager.tree.transceiver? 0 trx).isSome = true
    · obtain ⟨t, found⟩ := Option.isSome_iff_exists.mp known
      rw [if_pos known]
      exact run_settles { manager with tree := manager.tree.setRsl 0 trx true } _ time
        (Tree.rslLinkUp_ends manager.hardware found) fun site h => told trx (by decide) h
    · rw [if_neg known]
      have absent := Option.not_isSome_iff_eq_none.mp known
      exact ⟨_, rfl, (Tree.modifyTransceiver_of_none absent).symm, rfl, rfl⟩

/-- Two links that come up, one after the other. -/
theorem receive_both {first second : Message} {control control' : LinkControl} (sound : manager.tree.Sound)
    (told : first.primitive = .link control) (told' : second.primitive = .link control')
    (up : control.isUp = true) (up' : control'.isUp = true) (flags : LinkFlags) :
    ∃ one two, manager.receive flags first = .ok one ∧ one.state.receive one.flags second = .ok two ∧
      two.state.tree = (manager.tree.comeUp control).comeUp control' ∧
      two.state.hardware = manager.hardware ∧
      two.flags = flagsUp manager.tree (flagsUp manager.tree flags control) control' := by
  obtain ⟨one, received, tree, hardware, flags'⟩ := receiveLink_settles flags first.created sound up
  have sound' : one.state.tree.Sound := by
    obtain ⟨effect, received', sound'⟩ := receiveLink_sound flags control first.created sound
    cases received.symm.trans received'
    exact sound'
  obtain ⟨two, received', tree', hardware', flags''⟩ :=
    receiveLink_settles one.flags second.created sound' up'
  rw [tree, flagsUp_congr _ _ (Tree.isSome_comeUp manager.tree control), flags'] at flags''
  rw [tree] at tree'
  refine ⟨one, two, ?_, ?_, tree', hardware'.trans hardware, flags''⟩
  · simp only [receive_eq, told, received]
  · simp only [receive_eq, told', received']

/-- It does not matter in which order two links come up, of the same transceiver, of two, or to the BSC. -/
theorem linkUps_commute (reachable : Reachable manager) (flags : LinkFlags) {first second : Message}
    {control control' : LinkControl} (told : first.primitive = .link control)
    (told' : second.primitive = .link control') (up : control.isUp = true) (up' : control'.isUp = true) :
    ∃ one two one' two',
      manager.receive flags first = .ok one ∧ one.state.receive one.flags second = .ok two ∧
      manager.receive flags second = .ok one' ∧ one'.state.receive one'.flags first = .ok two' ∧
      two'.state.tree = two.state.tree ∧ two'.state.hardware = two.state.hardware ∧
      two'.flags = two.flags := by
  have sound := reachable.sound
  obtain ⟨one, two, received, next, tree, hardware, raised⟩ := receive_both sound told told' up up' flags
  obtain ⟨one', two', received', next', tree', hardware', raised'⟩ :=
    receive_both sound told' told up' up flags
  refine ⟨one, two, one', two', received, next, received', next', ?_, ?_, ?_⟩
  · rw [tree', tree, Tree.comeUp_comm sound]
  · rw [hardware', hardware]
  · rw [raised', raised, flagsUp_comm]

theorem linkUps_commute_fresh :
    let config : SiteConfig := { SiteConfig.ofHosts ["bsc"] with bts := { BtsConfig.default with numTrx := 2 } }
    let manager := ofConfig config (.fresh 2)
    let controls : List LinkControl := [.phyLinkUp 0, .rslLinkUp 0, .phyLinkUp 1, .rslLinkUp 1, .omlLinkUp]
    Reachable manager ∧ ∀ control ∈ controls, ∀ control' ∈ controls,
      let first := Message.ofPrimitive ⟨0⟩ (.link control)
      let second := Message.ofPrimitive ⟨0⟩ (.link control')
      ∃ one two one' two',
        manager.receive .initial first = .ok one ∧ one.state.receive one.flags second = .ok two ∧
        manager.receive .initial second = .ok one' ∧ one'.state.receive one'.flags first = .ok two' ∧
        two'.state.tree = two.state.tree ∧ two'.state.hardware = two.state.hardware ∧
        two'.flags = two.flags := by
  intro config manager controls
  have reachable : Reachable manager := ⟨_, [], ⟨_, _, false, rfl⟩, .start⟩
  have ups : ∀ control ∈ controls, control.isUp = true := by decide
  exact ⟨reachable, fun control mem control' mem' =>
    linkUps_commute reachable .initial rfl rfl (ups control mem) (ups control' mem')⟩

end Manager

end BaseStation
