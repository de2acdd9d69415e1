import Mathlib.Data.List.Nodup
import StatusPage.Proofs.Interleaving
import StatusPage.Proofs.StoreFrame

/-!
What holds of the store at all times. Whatever it is asked, in whatever order, no two records share
what they are looked up by, every reference leads to a record, and lists of services are in order.
Deleting an event takes its updates along, and deleting a template clears the references to it;
users are never deleted.
-/

set_option autoImplicit false

namespace StatusPage

theorem Uuid.lt_trans {a b c : Uuid} (first : a < b) (second : b < c) : a < c :=
  Nat.lt_trans (n := a.toNat) first second

theorem Uuid.lt_of_not_lt {a b : Uuid} (different : a ≠ b) (notBefore : ¬a < b) : b < a := by
  have numbers : a.toNat ≠ b.toNat := by
    intro same
    cases a
    cases b
    exact different (congrArg Uuid.mk (BitVec.eq_of_toNat_eq same))
  have order : ¬a.toNat < b.toNat := notBefore
  change b.toNat < a.toNat
  omega

namespace Store

/-! ### Increasing lists of identifiers -/

private theorem mem_insertId {id other : Uuid} {ids : List Uuid} :
    other ∈ insertId id ids ↔ other = id ∨ other ∈ ids := by
  induction ids with
  | nil => simp [insertId]
  | cons first rest ih =>
      unfold insertId
      split
      · rw [List.mem_cons]
      · split
        · rename_i same
          rw [same, List.mem_cons]
          simp
        · rw [List.mem_cons, ih, List.mem_cons]
          exact or_left_comm

private theorem insertId_increasing {id : Uuid} {ids : List Uuid}
    (increasing : ids.Pairwise (· < ·)) :
    (insertId id ids).Pairwise (· < ·) := by
  induction ids with
  | nil => exact List.pairwise_singleton _ id
  | cons first rest ih =>
      obtain ⟨after, others⟩ := List.pairwise_cons.mp increasing
      unfold insertId
      split
      · rename_i before
        refine List.pairwise_cons.mpr ⟨?_, increasing⟩
        intro other member
        rcases List.mem_cons.mp member with rfl | later
        · exact before
        · exact Uuid.lt_trans before (after other later)
      · split
        · exact increasing
        · rename_i notBefore different
          refine List.pairwise_cons.mpr ⟨?_, ih others⟩
          intro other member
          rcases mem_insertId.mp member with rfl | later
          · exact Uuid.lt_of_not_lt different notBefore
          · exact after other later

theorem idSet_increasing (ids : List Uuid) : (idSet ids).Pairwise (· < ·) := by
  induction ids with
  | nil => exact .nil
  | cons id rest ih => exact insertId_increasing ih

@[simp] theorem mem_idSet {id : Uuid} {ids : List Uuid} : id ∈ idSet ids ↔ id ∈ ids := by
  induction ids with
  | nil => rfl
  | cons first rest ih =>
      change id ∈ insertId first (idSet rest) ↔ _
      rw [mem_insertId, ih, List.mem_cons]

namespace Memory

/-! ### Keys -/

section Keys

variable {α κ : Type} {key : α → κ} {items : List α}

theorem keys_cons {new : α} (keys : (items.map key).Nodup)
    (free : ∀ item ∈ items, key item ≠ key new) :
    ((new :: items).map key).Nodup := by
  rw [List.map_cons, List.nodup_cons]
  refine ⟨?_, keys⟩
  intro taken
  obtain ⟨item, member, same⟩ := List.mem_map.mp taken
  exact free item member same

theorem keys_filter (keep : α → Bool) (keys : (items.map key).Nodup) :
    ((items.filter keep).map key).Nodup :=
  keys.sublist (List.filter_sublist.map key)

theorem keys_map {change : α → α} (same : ∀ item ∈ items, key (change item) = key item) :
    (items.map change).map key = items.map key := by
  rw [List.map_map]
  exact List.map_congr_left same

theorem find?_key [BEq κ] [LawfulBEq κ] (keys : (items.map key).Nodup) {item : α}
    (member : item ∈ items) :
    (items.find? fun other => key other == key item) = some item := by
  cases found : items.find? fun other => key other == key item with
  | none =>
      have missed := List.find?_eq_none.mp found item member
      exact absurd (beq_self_eq_true (key item)) missed
  | some other =>
      have same : key other = key item := by simpa using List.find?_some found
      rw [List.inj_on_of_nodup_map keys (List.mem_of_find?_eq_some found) member same]

end Keys

theorem replaced_id {event : Event} {eventId : Uuid} (mine : event.id = eventId)
    (change : StatusChange) (now : Time.Instant) (e : Event) :
    (if e.id = eventId then changed event change now else e).id = e.id := by
  by_cases same : e.id = eventId
  · rw [if_pos same, same]
    exact mine
  · rw [if_neg same]

theorem detached_id (id : Uuid) (event : Event) :
    (if event.templateId = some id then { event with templateId := none } else event).id =
      event.id := by
  by_cases attached : event.templateId = some id
  · rw [if_pos attached]
  · rw [if_neg attached]

private theorem edited_id {template : EventTemplate} {id : Uuid} (mine : template.id = id)
    (change : TemplateChange) (now : Time.Instant) (t : EventTemplate) :
    (if t.id = id then edited template change now else t).id = t.id := by
  by_cases same : t.id = id
  · rw [if_pos same, same]
    exact mine
  · rw [if_neg same]

theorem kept_userId (memory : Memory) (stamp : Stamp) (userId : Uuid) :
    ((memory.findSubscription userId).getD ⟨stamp.id, userId, [], stamp.now⟩).userId =
      userId := by
  cases found : memory.findSubscription userId with
  | none => rfl
  | some old => simpa using List.find?_some found

/-- No two records of a collection share a key, every reference leads to a record, and lists of
services are in order. -/
structure Intact (memory : Memory) : Prop where
  userIds : (memory.users.map User.id).Nodup
  emails : (memory.users.map User.email).Nodup
  digests : (memory.refreshTokens.map RefreshToken.digest).Nodup
  tokenOwners : ∀ token ∈ memory.refreshTokens, ∃ user ∈ memory.users,
    user.id = token.userId
  eventIds : (memory.events.map Event.id).Nodup
  templateIds : (memory.templates.map EventTemplate.id).Nodup
  slugs : (memory.templates.map EventTemplate.slug).Nodup
  eventTemplates : ∀ event ∈ memory.events, ∀ id, event.templateId = some id →
    ∃ template ∈ memory.templates, template.id = id
  updateEvents : ∀ update ∈ memory.updates, ∃ event ∈ memory.events,
    event.id = update.eventId
  subscribers : (memory.subscriptions.map Subscription.userId).Nodup
  subscriptionOwners : ∀ subscription ∈ memory.subscriptions,
    ∃ user ∈ memory.users, user.id = subscription.userId
  eventServices : ∀ event ∈ memory.events, event.serviceIds.Pairwise (· < ·)
  subscribedServices : ∀ subscription ∈ memory.subscriptions,
    subscription.serviceIds.Pairwise (· < ·)

theorem Intact.empty : Memory.empty.Intact := by
  constructor <;> simp [Memory.empty]

def identifiers (memory : Memory) : List Uuid :=
  memory.users.map User.id ++ memory.events.map Event.id ++ memory.templates.map EventTemplate.id

theorem mem_identifiers {memory : Memory} {id : Uuid} :
    id ∈ memory.identifiers ↔ (∃ user ∈ memory.users, user.id = id) ∨
      (∃ event ∈ memory.events, event.id = id) ∨
      ∃ template ∈ memory.templates, template.id = id := by
  simp [identifiers]

theorem hasUser_iff {memory : Memory} {id : Uuid} :
    memory.hasUser id = true ↔ ∃ user ∈ memory.users, user.id = id := by
  simp [hasUser]

namespace Intact

variable {memory : Memory} {stamp : Stamp}

/-! ### Accounts -/

theorem createUser (intact : memory.Intact) (new : NewUser)
    (fresh : ∀ user,
      (memory.createUser stamp new).1 = .ok user → user.id ∉ memory.identifiers) :
    (memory.createUser stamp new).2.Intact := by
  unfold Memory.createUser
  split
  · exact intact
  · rename_i free
    have unissued : stamp.id ∉ memory.identifiers :=
      fresh _ (by rw [Memory.createUser, if_neg free])
    have unknown : ∀ user ∈ memory.users, user.id ≠ stamp.id :=
      fun user member same => unissued (mem_identifiers.mpr (.inl ⟨user, member, same⟩))
    have unused : ∀ user ∈ memory.users, user.email ≠ new.email := by
      intro user member same
      exact free (List.any_eq_true.mpr ⟨user, member, by simp [same]⟩)
    have known {id : Uuid} (owner : ∃ user ∈ memory.users, user.id = id) (new : User) :
        ∃ user ∈ new :: memory.users, user.id = id := by
      obtain ⟨user, member, same⟩ := owner
      exact ⟨user, List.mem_cons_of_mem _ member, same⟩
    exact
      { intact with
        userIds := keys_cons intact.userIds unknown
        emails := keys_cons intact.emails unused
        tokenOwners := fun token member => known (intact.tokenOwners token member) _
        subscriptionOwners := fun subscription member =>
          known (intact.subscriptionOwners subscription member) _ }

theorem createRefreshToken (intact : memory.Intact) (new : NewRefreshToken) :
    (memory.createRefreshToken stamp new).2.Intact := by
  unfold Memory.createRefreshToken
  split
  · exact intact
  · rename_i known
    split
    · exact intact
    · rename_i absent
      have owner : ∃ user ∈ memory.users, user.id = new.userId :=
        hasUser_iff.mp (by simpa using known)
      have free : ∀ token ∈ memory.refreshTokens, token.digest ≠ new.digest := by
        intro token member same
        apply absent
        rw [findRefreshToken, List.find?_isSome]
        exact ⟨token, member, beq_iff_eq.mpr same⟩
      refine { intact with digests := keys_cons intact.digests free, tokenOwners := ?_ }
      intro token member
      rcases List.mem_cons.mp member with rfl | earlier
      · exact owner
      · exact intact.tokenOwners token earlier

theorem dropRefreshTokens (intact : memory.Intact) (drop : RefreshToken → Bool) :
    (memory.dropRefreshTokens drop).Intact :=
  { intact with
    digests := keys_filter _ intact.digests
    tokenOwners := fun token member => intact.tokenOwners token (List.mem_of_mem_filter member) }

theorem takeRefreshToken (intact : memory.Intact) (digest : String) :
    (memory.takeRefreshToken digest).2.Intact := by
  unfold Memory.takeRefreshToken
  split
  · exact intact
  · exact intact.dropRefreshTokens _

/-! ### Events and updates -/

theorem createEvent (intact : memory.Intact) (new : NewEvent)
    (fresh : ∀ event,
      (memory.createEvent stamp new).1 = .ok event → event.id ∉ memory.identifiers) :
    (memory.createEvent stamp new).2.Intact := by
  unfold Memory.createEvent
  split
  · exact intact
  · rename_i known
    have unissued : stamp.id ∉ memory.identifiers :=
      fresh _ (by rw [Memory.createEvent, if_neg known])
    have unknown : ∀ event ∈ memory.events, event.id ≠ stamp.id :=
      fun event member same =>
        unissued (mem_identifiers.mpr (.inr (.inl ⟨event, member, same⟩)))
    have chosen (id : Uuid) (given : new.templateId = some id) :
        ∃ template ∈ memory.templates, template.id = id := by
      cases found : memory.findTemplate id with
      | none => simp [given, found] at known
      | some template =>
          exact ⟨template, findTemplate_spec found⟩
    refine
      { intact with
        eventIds := keys_cons intact.eventIds unknown
        eventTemplates := ?_
        updateEvents := ?_
        eventServices := ?_ }
    · intro event member
      rcases List.mem_cons.mp member with rfl | earlier
      · exact chosen
      · exact intact.eventTemplates event earlier
    · intro update member
      obtain ⟨event, present, same⟩ := intact.updateEvents update member
      exact ⟨event, List.mem_cons_of_mem _ present, same⟩
    · intro event member
      rcases List.mem_cons.mp member with rfl | earlier
      · exact idSet_increasing new.serviceIds
      · exact intact.eventServices event earlier

theorem recordUpdate (intact : memory.Intact) (eventId : Uuid) (new : NewUpdate) :
    (memory.recordUpdate stamp eventId new).2.Intact := by
  unfold Memory.recordUpdate
  cases found : memory.findEvent eventId with
  | none => exact intact
  | some event =>
      obtain ⟨present, mine⟩ := findEvent_spec found
      -- The changed event takes the place of one with its identifier, template and services.
      have origin (e : Event) (member : e ∈ memory.events.map fun e =>
          if e.id = eventId then changed event new.change stamp.now else e) :
          ∃ old ∈ memory.events, e.templateId = old.templateId ∧
            e.serviceIds = old.serviceIds := by
        obtain ⟨old, earlier, rfl⟩ := List.mem_map.mp member
        by_cases same : old.id = eventId
        · rw [if_pos same]
          exact ⟨event, present, rfl, rfl⟩
        · rw [if_neg same]
          exact ⟨old, earlier, rfl, rfl⟩
      have ids := replaced_id mine new.change stamp.now
      have kept {id : Uuid} (owner : ∃ e ∈ memory.events, e.id = id) :
          ∃ e ∈ memory.events.map fun e =>
            if e.id = eventId then changed event new.change stamp.now else e, e.id = id := by
        obtain ⟨e, member, same⟩ := owner
        exact ⟨_, List.mem_map_of_mem member, (ids e).trans same⟩
      refine
        { intact with
          eventIds := (keys_map fun e _ => ids e).symm ▸ intact.eventIds
          eventTemplates := ?_
          updateEvents := ?_
          eventServices := ?_ }
      · intro e member id chosen
        obtain ⟨old, present, templateId, -⟩ := origin e member
        exact intact.eventTemplates old present id (templateId ▸ chosen)
      · intro update member
        rcases List.mem_cons.mp member with rfl | earlier
        · exact kept ⟨event, present, mine⟩
        · exact kept (intact.updateEvents update earlier)
      · intro e member
        obtain ⟨old, present, -, serviceIds⟩ := origin e member
        exact serviceIds ▸ intact.eventServices old present

theorem deleteEvent (intact : memory.Intact) (id : Uuid) : (memory.deleteEvent id).2.Intact := by
  unfold Memory.deleteEvent
  split
  · exact intact
  · refine
      { intact with
        eventIds := keys_filter _ intact.eventIds
        eventTemplates :=
          fun event member => intact.eventTemplates event (List.mem_of_mem_filter member)
        updateEvents := ?_
        eventServices :=
          fun event member => intact.eventServices event (List.mem_of_mem_filter member) }
    intro update member
    obtain ⟨earlier, other⟩ := List.mem_filter.mp member
    obtain ⟨event, present, same⟩ := intact.updateEvents update earlier
    exact ⟨event, List.mem_filter.mpr ⟨present, same ▸ other⟩, same⟩

/-! ### Templates -/

theorem createTemplate (intact : memory.Intact) (new : NewTemplate)
    (fresh : ∀ template,
      (memory.createTemplate stamp new).1 = .ok template → template.id ∉ memory.identifiers) :
    (memory.createTemplate stamp new).2.Intact := by
  unfold Memory.createTemplate
  split
  · exact intact
  · rename_i absent
    have unissued : stamp.id ∉ memory.identifiers :=
      fresh _ (by rw [Memory.createTemplate, if_neg absent])
    have unknown : ∀ template ∈ memory.templates, template.id ≠ stamp.id :=
      fun template member same =>
        unissued (mem_identifiers.mpr (.inr (.inr ⟨template, member, same⟩)))
    have free : ∀ template ∈ memory.templates, template.slug ≠ new.slug := by
      intro template member same
      apply absent
      rw [findTemplateBySlug, List.find?_isSome]
      exact ⟨template, member, beq_iff_eq.mpr same⟩
    -- A new template stands behind the others, where a cons cannot put it.
    have concat {κ : Type} {key : EventTemplate → κ} (keys : (memory.templates.map key).Nodup)
        (last : EventTemplate)
        (unused : ∀ template ∈ memory.templates, key template ≠ key last) :
        ((memory.templates ++ [last]).map key).Nodup :=
      ((List.perm_append_singleton last memory.templates).map key).nodup_iff.mpr
        (keys_cons keys unused)
    refine
      { intact with
        templateIds := concat intact.templateIds _ unknown
        slugs := concat intact.slugs _ free
        eventTemplates := ?_ }
    intro event member id chosen
    obtain ⟨template, present, same⟩ := intact.eventTemplates event member id chosen
    exact ⟨template, List.mem_append_left _ present, same⟩

theorem updateTemplate (intact : memory.Intact) (id : Uuid) (change : TemplateChange) :
    (memory.updateTemplate stamp id change).2.Intact := by
  unfold Memory.updateTemplate
  cases found : memory.findTemplate id with
  | none => exact intact
  | some template =>
      obtain ⟨present, mine⟩ := findTemplate_spec found
      have ids := edited_id mine change stamp.now
      -- No other template has this identifier, so the slug of each template stays.
      have slugs : ∀ t ∈ memory.templates,
          (if t.id = id then edited template change stamp.now else t).slug = t.slug := by
        intro t member
        by_cases same : t.id = id
        · have equal : t = template :=
            List.inj_on_of_nodup_map intact.templateIds member present (same.trans mine.symm)
          rw [if_pos same, equal]
          rfl
        · rw [if_neg same]
      refine
        { intact with
          templateIds := (keys_map fun t _ => ids t).symm ▸ intact.templateIds
          slugs := (keys_map slugs).symm ▸ intact.slugs
          eventTemplates := ?_ }
      intro event member other chosen
      obtain ⟨t, present, same⟩ := intact.eventTemplates event member other chosen
      exact ⟨_, List.mem_map_of_mem present, (ids t).trans same⟩

theorem deleteTemplate (intact : memory.Intact) (id : Uuid) :
    (memory.deleteTemplate id).2.Intact := by
  unfold Memory.deleteTemplate
  split
  · exact intact
  · have cleared (event : Event) (member : event ∈ memory.events.map fun event =>
        if event.templateId = some id then { event with templateId := none } else event) :
        ∃ old ∈ memory.events, event.id = old.id ∧ event.serviceIds = old.serviceIds ∧
          ∀ other, event.templateId = some other → old.templateId = some other ∧
            other ≠ id := by
      obtain ⟨old, earlier, rfl⟩ := List.mem_map.mp member
      refine ⟨old, earlier, ?_⟩
      by_cases attached : old.templateId = some id
      · rw [if_pos attached]
        exact ⟨rfl, rfl, nofun⟩
      · rw [if_neg attached]
        refine ⟨rfl, rfl, fun other chosen => ⟨chosen, ?_⟩⟩
        rintro rfl
        exact attached chosen
    refine
      { intact with
        eventIds := (keys_map fun event _ => detached_id id event).symm ▸ intact.eventIds
        templateIds := keys_filter _ intact.templateIds
        slugs := keys_filter _ intact.slugs
        eventTemplates := ?_
        updateEvents := ?_
        eventServices := ?_ }
    · intro event member other chosen
      obtain ⟨old, present, -, -, was⟩ := cleared event member
      obtain ⟨chosen, different⟩ := was other chosen
      obtain ⟨template, known, same⟩ := intact.eventTemplates old present other chosen
      refine ⟨template, List.mem_filter.mpr ⟨known, ?_⟩, same⟩
      rw [same]
      exact bne_iff_ne.mpr different
    · intro update member
      obtain ⟨event, present, same⟩ := intact.updateEvents update member
      exact ⟨_, List.mem_map_of_mem present, (detached_id id event).trans same⟩
    · intro event member
      obtain ⟨old, present, -, serviceIds, -⟩ := cleared event member
      exact serviceIds ▸ intact.eventServices old present

/-! ### Subscriptions -/

theorem setSubscription (intact : memory.Intact) (userId : Uuid) (serviceIds : List Uuid) :
    (memory.setSubscription stamp userId serviceIds).2.Intact := by
  unfold Memory.setSubscription
  split
  · exact intact
  · rename_i known
    have owner : ∃ user ∈ memory.users, user.id = userId :=
      hasUser_iff.mp (by simpa using known)
    have mine := memory.kept_userId stamp userId
    refine
      { intact with
        subscribers := keys_cons (keys_filter _ intact.subscribers) ?_
        subscriptionOwners := ?_
        subscribedServices := ?_ }
    · intro subscription member
      have other := (List.mem_filter.mp member).2
      rw [bne_iff_ne] at other
      exact fun same => other (same.trans mine)
    · intro subscription member
      rcases List.mem_cons.mp member with rfl | earlier
      · exact mine.symm ▸ owner
      · exact intact.subscriptionOwners subscription (List.mem_of_mem_filter earlier)
    · intro subscription member
      rcases List.mem_cons.mp member with rfl | earlier
      · exact idSet_increasing serviceIds
      · exact intact.subscribedServices subscription (List.mem_of_mem_filter earlier)

theorem deleteSubscription (intact : memory.Intact) (userId : Uuid) :
    (memory.deleteSubscription userId).2.Intact := by
  unfold Memory.deleteSubscription
  split
  · exact intact
  · exact
      { intact with
        subscribers := keys_filter _ intact.subscribers
        subscriptionOwners := fun subscription member =>
          intact.subscriptionOwners subscription (List.mem_of_mem_filter member)
        subscribedServices := fun subscription member =>
          intact.subscribedServices subscription (List.mem_of_mem_filter member) }

theorem addChannel (intact : memory.Intact) (new : NewChannel) :
    (memory.addChannel stamp new).2.Intact :=
  { intact with }

end Intact

end Memory

end Store

/-! ### Runs of calls -/

open Store (Call Memory Stamp)

variable {memory : Memory}

/-- What an exchange with the store keeps, if it gives out an identifier that no record has yet. -/
theorem Store.Memory.Intact.effect {exchange : Exchange} (intact : memory.Intact)
    (honest : exchange.Honest memory)
    (fresh : ∀ id, exchange.issued = some id → id ∉ memory.identifiers) :
    (exchange.effect memory).Intact := by
  obtain ⟨stamp, op, answer⟩ := exchange
  cases op with
  | store call =>
      simp only [Exchange.Honest] at honest
      subst honest
      cases call with
      | createUser new =>
          refine intact.createUser new fun user made => fresh user.id ?_
          simp only [Memory.perform, made, Exchange.issued]
      | createRefreshToken new => exact intact.createRefreshToken new
      | takeRefreshToken digest => exact intact.takeRefreshToken digest
      | deleteRefreshToken | deleteUserRefreshTokens | deleteExpiredRefreshTokens =>
          exact intact.dropRefreshTokens _
      | createEvent new =>
          refine intact.createEvent new fun event made => fresh event.id ?_
          simp only [Memory.perform, made, Exchange.issued]
      | recordUpdate eventId new => exact intact.recordUpdate eventId new
      | deleteEvent id => exact intact.deleteEvent id
      | createTemplate new =>
          refine intact.createTemplate new fun template made => fresh template.id ?_
          simp only [Memory.perform, made, Exchange.issued]
      | updateTemplate id change => exact intact.updateTemplate id change
      | deleteTemplate id => exact intact.deleteTemplate id
      | addChannel new => exact intact.addChannel new
      | setSubscription userId serviceIds => exact intact.setSubscription userId serviceIds
      | deleteSubscription userId => exact intact.deleteSubscription userId
      | _ => exact intact
  | _ => exact intact

theorem Store.Memory.mem_identifiers_effect {exchange : Exchange} (honest : exchange.Honest memory)
    {id : Uuid} (member : id ∈ (exchange.effect memory).identifiers) :
    id ∈ memory.identifiers ∨ exchange.issued = some id := by
  obtain ⟨stamp, op, answer⟩ := exchange
  cases op with
  | store call =>
      have frame := memory.perform_unchanged stamp call
      simp only [Exchange.Honest] at honest
      subst honest
      revert member
      -- A creating call adds the one identifier that it gives out; the other calls keep
      -- or thin out the lists.
      cases call with
      | createUser new =>
          simp only [Exchange.effect, Memory.perform, Memory.createUser]
          split
          · exact .inl
          · simp only [identifiers, Exchange.issued, List.map_cons, List.mem_append, List.mem_cons,
              Option.some_inj]
            grind
      | createEvent new =>
          simp only [Exchange.effect, Memory.perform, Memory.createEvent]
          split
          · exact .inl
          · simp only [identifiers, Exchange.issued, List.map_cons, List.mem_append, List.mem_cons,
              Option.some_inj]
            grind
      | createTemplate new =>
          simp only [Exchange.effect, Memory.perform, Memory.createTemplate]
          split
          · exact .inl
          · simp only [identifiers, Exchange.issued, List.map_append, List.map_singleton,
              List.mem_append, List.mem_singleton, Option.some_inj]
            grind
      | recordUpdate eventId new =>
          simp only [Exchange.effect, Memory.perform, Memory.recordUpdate]
          cases found : memory.findEvent eventId with
          | none => exact .inl
          | some event =>
              simp only [identifiers,
                keys_map fun e _ => replaced_id (findEvent_spec found).2 new.change stamp.now e]
              exact .inl
      | deleteTemplate other =>
          simp only [Exchange.effect, Memory.perform, Memory.deleteTemplate]
          split
          · exact .inl
          · simp only [identifiers, keys_map fun event _ => detached_id other event]
            intro member
            refine .inl (List.Sublist.subset ?_ member)
            exact (List.Sublist.refl _).append (List.filter_sublist.map EventTemplate.id)
      | updateTemplate other change =>
          simp only [Exchange.effect, Memory.perform, Memory.updateTemplate]
          cases found : memory.findTemplate other with
          | none => exact .inl
          | some template =>
              simp only [identifiers,
                keys_map fun t _ => edited_id (findTemplate_spec found).2 change stamp.now t]
              exact .inl
      | deleteEvent other =>
          simp only [Exchange.effect, Memory.perform, Memory.deleteEvent]
          split
          · exact .inl
          · simp only [identifiers]
            intro member
            refine .inl (List.Sublist.subset ?_ member)
            exact ((List.Sublist.refl _).append (List.filter_sublist.map Event.id)).append_right _
      | _ =>
          intro member
          rw [mem_identifiers] at member ⊢
          rw [Exchange.effect, frame.users (by simp [Call.writes]),
            frame.events (by simp [Call.writes]), frame.templates (by simp [Call.writes])] at member
          exact .inl member
  | _ => exact .inl member

/-- One more exchange leaves a store intact when the identifier that it gives out is a new one. -/
theorem Store.Memory.Intact.concat {exchanges : List Exchange} {last : Exchange} {memory : Memory}
    (intact : memory.Intact)
    (known : ∀ id ∈ memory.identifiers, id ∈ exchanges.filterMap Exchange.issued)
    (honest : last.Honest memory)
    (distinct : ((exchanges ++ [last]).filterMap Exchange.issued).Nodup) :
    (last.effect memory).Intact ∧
      ∀ id ∈ (last.effect memory).identifiers,
        id ∈ (exchanges ++ [last]).filterMap Exchange.issued := by
  constructor
  · refine intact.effect honest fun id issued member => ?_
    exact not_mem_filterMap_init distinct issued (known id member)
  · intro id member
    rw [List.filterMap_append]
    rcases mem_identifiers_effect honest member with old | issued
    · exact List.mem_append_left _ (known id old)
    · exact List.mem_append_right _ (by simp [issued])

/-- Whatever is looked up by an identifier got it from the exchanges so far. -/
theorem Store.Memory.Intact.replay {exchanges : List Exchange}
    (honest : HonestFrom .empty exchanges)
    (distinct : (exchanges.filterMap Exchange.issued).Nodup) :
    (replay .empty exchanges).Intact ∧
      ∀ id ∈ (replay .empty exchanges).identifiers,
        id ∈ exchanges.filterMap Exchange.issued := by
  induction exchanges using List.reverseRecOn with
  | nil => exact ⟨.empty, nofun⟩
  | append_singleton exchanges last ih =>
      obtain ⟨honest, fits⟩ := honest.init
      obtain ⟨intact, known⟩ := ih honest (nodup_filterMap_init distinct)
      rw [replay_append]
      exact intact.concat known fits distinct

def Exchange.carriedOut (memory : Memory) : List (Stamp × Call) → List Exchange
  | [] => []
  | (stamp, call) :: later =>
      ⟨stamp, .store call, (memory.perform stamp call).1⟩ ::
        carriedOut (memory.perform stamp call).2 later

def Store.Memory.run (memory : Memory) (calls : List (Stamp × Call)) : Memory :=
  calls.foldl (fun memory call => (memory.perform call.1 call.2).2) memory

theorem replay_carriedOut (memory : Memory) (calls : List (Stamp × Call)) :
    replay memory (Exchange.carriedOut memory calls) = memory.run calls := by
  induction calls generalizing memory with
  | nil => rfl
  | cons call later ih => exact ih (memory.perform call.1 call.2).2

theorem carriedOut_honest (memory : Memory) (calls : List (Stamp × Call)) :
    HonestFrom memory (Exchange.carriedOut memory calls) := by
  induction calls generalizing memory with
  | nil => exact .nil memory
  | cons call later ih => exact .cons rfl (ih (memory.perform call.1 call.2).2)

/-- Whatever an empty store is asked, in whatever order: users, events and templates are
told apart by what they are looked up by, and each refresh token and each subscription
is found under its own key. -/
theorem Store.Memory.run_intact (calls : List (Stamp × Call))
    (distinct : ((Exchange.carriedOut .empty calls).filterMap Exchange.issued).Nodup) :
    (Memory.empty.run calls).Intact ∧
      (∀ token ∈ (Memory.empty.run calls).refreshTokens,
        (Memory.empty.run calls).findRefreshToken token.digest = some token) ∧
      ∀ subscription ∈ (Memory.empty.run calls).subscriptions,
        (Memory.empty.run calls).findSubscription subscription.userId = some subscription := by
  have intact := (Intact.replay (carriedOut_honest .empty calls) distinct).1
  rw [replay_carriedOut] at intact
  exact ⟨intact, fun token => find?_key intact.digests,
    fun subscription => find?_key intact.subscribers⟩

/-- A template is deleted while an event refers to it, and before
another one is to be made from it. -/
def crossedCalls : List (Stamp × Call) :=
  let stamps : List Stamp := (List.range 12).map fun n : Nat => ⟨⟨n, 0⟩, .ofNat n⟩
  let event : NewEvent :=
    { title := "Move", kind := .maintenance, status := .scheduled, severity := none,
      description := "", startedAt := none, scheduledStart := none, scheduledEnd := none,
      notify := false, templateId := some (.ofNat 3), createdBy := .ofNat 0,
      serviceIds := [.ofNat 9, .ofNat 7, .ofNat 9] }
  stamps.zip
    [.createUser ⟨"ada@example.com", "secret", none, none, .admin⟩,
      .createUser ⟨"ada@example.com", "other", none, none, .user⟩,
      .createRefreshToken ⟨.ofNat 0, "digest", ⟨90, 0⟩⟩,
      .createTemplate ⟨"move", .maintenance, "Move", "Soon."⟩,
      .createTemplate ⟨"move", .incident, "Again", ""⟩,
      .createEvent event,
      .recordUpdate (.ofNat 5) ⟨⟨.inProgress, false⟩, "moving", false, .ofNat 0⟩,
      .deleteTemplate (.ofNat 3),
      .createEvent event,
      .setSubscription (.ofNat 0) [.ofNat 8, .ofNat 6],
      .createRefreshToken ⟨.ofNat 1, "nobody", ⟨90, 0⟩⟩,
      .setSubscription (.ofNat 0) [.ofNat 8, .ofNat 7, .ofNat 6]]

theorem crossedCalls_intact :
    ((Exchange.carriedOut .empty crossedCalls).filterMap Exchange.issued).Nodup ∧
      (Memory.empty.run crossedCalls).Intact ∧
      (Memory.empty.run crossedCalls).events.map (fun event =>
        (event.templateId, event.serviceIds)) = [(none, [.ofNat 7, .ofNat 9])] ∧
      (Memory.empty.run crossedCalls).updates.map EventUpdate.eventId = [.ofNat 5] ∧
      (Memory.empty.run crossedCalls).subscriptions.map Subscription.id = [.ofNat 9] := by
  have distinct : ((Exchange.carriedOut .empty crossedCalls).filterMap Exchange.issued).Nodup := by
    decide +kernel
  exact ⟨distinct, (Memory.run_intact crossedCalls distinct).1, by decide +kernel,
    by decide +kernel, by decide +kernel⟩

end StatusPage
