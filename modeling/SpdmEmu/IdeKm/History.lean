import SpdmEmu.Run.Latest
import SpdmEmu.IdeKm.KeySlots

/-!
# The port context as a function of its history

`QUERY` binds a port and forgets all keys, and every other request is for one slot of the bound
port. So the port context is what the events after the last successful `QUERY` make of it, slot by
slot: the last `KEY_PROG` for a slot gives its key, the last `K_SET_GO` or `K_SET_STOP` says whether
it is active. A request of the wrong size, with an unknown object id or for another port fails and
has no effect. What a request can do is said once, by `Effect`.
-/

set_option autoImplicit false

namespace SpdmEmu.IdeKm

open SpdmEmu.Wire SpdmEmu.Libspdm SpdmEmu.Run SpdmEmu.Run.Slots

variable {K : PciIdeKm}

/-! ## Requests -/

/-- The size of a request. -/
def requestSize (K : PciIdeKm) : Request → Nat
  | .query => K.header.size + K.queryRequest.size
  | .keyProg => K.header.size + K.keyProgRequest.size + K.keyBuffer.size
  | .kSetGo => K.header.size + K.kSetGoRequest.size
  | .kSetStop => K.header.size + K.kSetStopRequest.size

/-- The layout of the body of a request for a slot. -/
def keyLayout (K : PciIdeKm) : Request → Option (Packed KeyBody)
  | .query => none
  | .keyProg => some K.keyProgRequest
  | .kSetGo => some K.kSetGoRequest
  | .kSetStop => some K.kSetStopRequest

/-- The request has the object id of a table entry. -/
def HasObjectId (K : PciIdeKm) (r : Request) (request : Bytes) : Prop :=
  K.header.decode request = K.requestObjectId r

instance (r : Request) (request : Bytes) : Decidable (HasObjectId K r request) :=
  inferInstanceAs (Decidable (_ = _))

/-- The stream, sub-stream and port in a request with a given body. -/
def readKey (K : PciIdeKm) (body : Packed KeyBody) (request : Bytes) : KeyBody :=
  body.decode (request.drop K.header.size)

/-- The key in a `KEY_PROG`. -/
def readKeyBuffer (K : PciIdeKm) (request : Bytes) : KeyBuffer :=
  K.keyBuffer.decode (request.drop (K.header.size + K.keyProgRequest.size))

/-- A request that no handler carries out while a port is bound. -/
inductive Refused (K : PciIdeKm) (portIndex : UInt8) (request : Bytes) : Prop
  | unknown (hid : ∀ r, ¬ HasObjectId K r request)
  | wrongSize (r : Request) (hid : HasObjectId K r request)
      (hsize : request.length ≠ requestSize K r)
  | otherPort (r : Request) (hid : HasObjectId K r request) (body : Packed KeyBody)
      (hbody : keyLayout K r = some body) (hport : (readKey K body request).portIndex ≠ portIndex)

/-- All that a request can do: it is refused and changes nothing, it binds a port, it writes the key
of a slot, or it starts or stops a slot. -/
inductive Effect (K : PciIdeKm) (ctx : PortContext) (request : Bytes) : Reply × PortContext → Prop
  | refused {reply : Reply} (hwhy : Refused K ctx.portIndex request)
      (herror : reply.status.isError = true) : Effect K ctx request (reply, ctx)
  | query {reply : Reply} (hid : HasObjectId K .query request)
      (hsize : request.length = requestSize K .query) (hok : reply.status = .success) :
      Effect K ctx request
        (reply, pciIdeKmDeviceQuery (K.queryRequest.decode (request.drop K.header.size)))
  | keyProg {reply : Reply} (hid : HasObjectId K .keyProg request)
      (hsize : request.length = requestSize K .keyProg)
      (hport : (readKey K K.keyProgRequest request).portIndex = ctx.portIndex)
      (hok : reply.status = .success) :
      Effect K ctx request
        (reply, { ctx with
          keyBuffer := ctx.keyBuffer.set
            (keyIndex K (readKey K K.keyProgRequest request).keySubStream)
            (readKeyBuffer K request)
          isKeyProg := ctx.isKeyProg.set
            (keyIndex K (readKey K K.keyProgRequest request).keySubStream) true })
  | keySet {reply : Reply} (r : Request) (body : Packed KeyBody) (go : Bool)
      (hkind : r = .kSetGo ∧ go = true ∨ r = .kSetStop ∧ go = false)
      (hbody : keyLayout K r = some body) (hid : HasObjectId K r request)
      (hsize : request.length = requestSize K r)
      (hport : (readKey K body request).portIndex = ctx.portIndex)
      (hok : reply.status = .success) :
      Effect K ctx request
        (reply, { ctx with
          isKeySetGo := ctx.isKeySetGo.set
            (keyIndex K (readKey K body request).keySubStream) go })

section Step

variable {ctx : PortContext} {request : Bytes}

theorem effect_query (hid : HasObjectId K .query request) :
    Effect K ctx request (pciIdeKmGetResponseQuery K ctx request) := by
  simp only [pciIdeKmGetResponseQuery, getResponseQueryOf]
  split
  · next hsize => exact .refused (.wrongSize .query hid hsize) rfl
  · next hsize => exact .query hid (not_not.1 hsize) rfl

theorem effect_keyProg (hid : HasObjectId K .keyProg request) :
    Effect K ctx request (pciIdeKmGetResponseKeyProg K ctx request) := by
  simp only [pciIdeKmGetResponseKeyProg, handleKeyProg, pciIdeKmDeviceKeyProg]
  by_cases hsize :
      request.length = K.header.size + K.keyProgRequest.size + K.keyBuffer.size
  · rw [if_neg (not_not.2 hsize)]
    by_cases hport : ctx.portIndex = (readKey K K.keyProgRequest request).portIndex
    · have hbound : ctx.isBound (readKey K K.keyProgRequest request).portIndex = true :=
        beq_iff_eq.2 hport
      rw [readKey] at hbound
      rw [hbound]
      exact .keyProg hid hsize hport.symm rfl
    · have hbound : ctx.isBound (readKey K K.keyProgRequest request).portIndex = false :=
        beq_eq_false_iff_ne.2 hport
      rw [readKey] at hbound
      rw [hbound]
      exact .refused (.otherPort .keyProg hid _ rfl (Ne.symm hport)) rfl
  · rw [if_pos hsize]
    exact .refused (.wrongSize .keyProg hid hsize) rfl

/-- The two handlers of a key set. -/
theorem effect_keySet (r : Request) (body : Packed KeyBody) (go : Bool)
    (hkind : r = .kSetGo ∧ go = true ∨ r = .kSetStop ∧ go = false)
    (hbody : keyLayout K r = some body) (hr : requestSize K r = K.header.size + body.size)
    (hid : HasObjectId K r request) :
    Effect K ctx request (handleKeySet K body (setKeySetGo K go) ctx request) := by
  simp only [handleKeySet, handleKeySetOf, setKeySetGo]
  by_cases hsize : request.length = K.header.size + body.size
  · rw [if_neg (not_not.2 hsize)]
    by_cases hport : ctx.portIndex = (readKey K body request).portIndex
    · have hbound : ctx.isBound (readKey K body request).portIndex = true := beq_iff_eq.2 hport
      rw [readKey] at hbound
      rw [hbound]
      exact .keySet r body go hkind hbody hid (hsize.trans hr.symm) hport.symm rfl
    · have hbound : ctx.isBound (readKey K body request).portIndex = false :=
        beq_eq_false_iff_ne.2 hport
      rw [readKey] at hbound
      rw [hbound]
      exact .refused (.otherPort r hid body hbody (Ne.symm hport)) rfl
  · rw [if_pos hsize]
    refine .refused (.wrongSize r hid ?_) rfl
    rwa [hr]

theorem effect_step (K : PciIdeKm) (ctx : PortContext) (request : Bytes) :
    Effect K ctx request ((responder K).step ctx request) := by
  show Effect K ctx request (pciIdeKmGetResponse K ctx request)
  simp only [pciIdeKmGetResponse, dispatchObject]
  by_cases hknown : ∃ r, HasObjectId K r request
  · obtain ⟨r, hid⟩ := hknown
    have hle : K.header.size ≤ requestSize K r := by cases r <;> simp only [requestSize] <;> omega
    by_cases hshort : request.length < K.header.size
    · rw [if_pos hshort]
      exact .refused (.wrongSize r hid (by omega)) rfl
    · have hid' : K.header.decode request = K.requestObjectId r := hid
      rw [if_neg hshort, hid', find_mPciIdeKmDispatch]
      cases r with
      | query => exact effect_query hid
      | keyProg => exact effect_keyProg hid
      | kSetGo => exact effect_keySet .kSetGo _ true (.inl ⟨rfl, rfl⟩) rfl rfl hid
      | kSetStop => exact effect_keySet .kSetStop _ false (.inr ⟨rfl, rfl⟩) rfl rfl hid
  · have hunknown : ∀ r, ¬ HasObjectId K r request := fun r hr => hknown ⟨r, hr⟩
    have hfind : (mPciIdeKmDispatch.find? fun r =>
        K.header.decode request == K.requestObjectId r) = none := by
      refine List.find?_eq_none.2 fun r _ => ?_
      exact fun heq => hunknown r (beq_iff_eq.1 heq)
    rw [hfind]
    split
    · exact .refused (.unknown hunknown) rfl
    · exact .refused (.unknown hunknown) rfl

end Step

/-! ## What an event writes -/

/-- An event of the PCI device. -/
abbrev KeyEvent := Event PortContext Bytes Reply

/-- The port that a successful `QUERY` binds. -/
def queried (K : PciIdeKm) (e : KeyEvent) : Option UInt8 :=
  if HasObjectId K .query e.input ∧ e.output.status = .success then
    some (K.queryRequest.decode (e.input.drop K.header.size))
  else none

/-- The event is a successful request of a kind for a slot of a port. -/
def Writes (K : PciIdeKm) (r : Request) (body : Packed KeyBody) (portIndex : UInt8) (i : Fin 4)
    (e : KeyEvent) : Prop :=
  HasObjectId K r e.input ∧ e.output.status = .success ∧
    (readKey K body e.input).portIndex = portIndex ∧
    keyIndex K (readKey K body e.input).keySubStream = i

instance (r : Request) (body : Packed KeyBody) (portIndex : UInt8) (i : Fin 4) (e : KeyEvent) :
    Decidable (Writes K r body portIndex i e) :=
  inferInstanceAs (Decidable (_ ∧ _))

/-- The key that a successful `KEY_PROG` gives a slot. -/
def programmed (K : PciIdeKm) (portIndex : UInt8) (i : Fin 4) (e : KeyEvent) : Option KeyBuffer :=
  if Writes K .keyProg K.keyProgRequest portIndex i e then some (readKeyBuffer K e.input) else none

/-- What a successful `K_SET_GO` or `K_SET_STOP` makes of a slot. -/
def switched (K : PciIdeKm) (portIndex : UInt8) (i : Fin 4) (e : KeyEvent) : Option Bool :=
  if Writes K .kSetGo K.kSetGoRequest portIndex i e then some true
  else if Writes K .kSetStop K.kSetStopRequest portIndex i e then some false
  else none

/-- A request has one object id. -/
theorem HasObjectId.unique {r r' : Request} {request : Bytes} (h : HasObjectId K r request)
    (h' : HasObjectId K r' request) : r = r' :=
  K.requestObjectId_injective (h.symm.trans h')

section Silent

variable {e : KeyEvent} {portIndex : UInt8} {i : Fin 4}

theorem not_writes_of_error (herror : e.output.status.isError = true) (r : Request)
    (body : Packed KeyBody) : ¬ Writes K r body portIndex i e := by
  rintro ⟨-, hok, -⟩
  rw [hok] at herror
  cases herror

theorem not_writes_of_kind {r r' : Request} (hid : HasObjectId K r e.input) (hne : r ≠ r')
    (body : Packed KeyBody) : ¬ Writes K r' body portIndex i e :=
  fun h => hne (hid.unique h.1)

theorem queried_eq_none_of_error (herror : e.output.status.isError = true) :
    queried K e = none := by
  refine if_neg ?_
  rintro ⟨-, hok⟩
  rw [hok] at herror
  cases herror

theorem queried_eq_none_of_kind {r : Request} (hid : HasObjectId K r e.input) (hne : r ≠ .query) :
    queried K e = none :=
  if_neg fun h => hne (hid.unique h.1)

theorem programmed_eq_none (h : ¬ Writes K .keyProg K.keyProgRequest portIndex i e) :
    programmed K portIndex i e = none :=
  if_neg h

theorem switched_eq_none (hgo : ¬ Writes K .kSetGo K.kSetGoRequest portIndex i e)
    (hstop : ¬ Writes K .kSetStop K.kSetStopRequest portIndex i e) :
    switched K portIndex i e = none := by
  rw [switched, if_neg hgo, if_neg hstop]

end Silent

/-! ## The fold -/

/-- The part of a history after its last successful `QUERY`. -/
def sinceQuery (K : PciIdeKm) (H : List KeyEvent) : List KeyEvent :=
  sinceReset (fun e => (queried K e).isSome) H

/-- The context is the one that its history makes of the zeroed one. -/
structure FoldOf (K : PciIdeKm) (H : List KeyEvent) (ctx : PortContext) : Prop where
  portIndex : ctx.portIndex = (latest (queried K) H).getD 0
  keyBuffer : ∀ i, ctx.keyBuffer.get i =
    (latest (programmed K ctx.portIndex i) (sinceQuery K H)).getD (Vector.replicate _ 0)
  isKeyProg : ∀ i, ctx.isKeyProg.get i =
    (latest (programmed K ctx.portIndex i) (sinceQuery K H)).isSome
  isKeySetGo : ∀ i, ctx.isKeySetGo.get i =
    (latest (switched K ctx.portIndex i) (sinceQuery K H)).getD false

theorem foldOf_zeroed (K : PciIdeKm) : FoldOf K [] .zeroed where
  portIndex := rfl
  keyBuffer i := get_replicate _ i
  isKeyProg i := get_replicate _ i
  isKeySetGo i := get_replicate _ i

section Snoc

variable {H : List KeyEvent} {ctx : PortContext} {e : KeyEvent}

theorem latest_queried_snoc (h : queried K e = none) :
    latest (queried K) (H ++ [e]) = latest (queried K) H :=
  latest_snoc_of_none h

theorem sinceQuery_snoc (h : queried K e = none) :
    sinceQuery K (H ++ [e]) = sinceQuery K H ++ [e] :=
  sinceReset_snoc (by rw [h]; rfl)

/-- An event that writes nothing. -/
theorem FoldOf.snoc_refused (hfold : FoldOf K H ctx) (herror : e.output.status.isError = true) :
    FoldOf K (H ++ [e]) ctx := by
  have hq := queried_eq_none_of_error (K := K) herror
  have hp : ∀ i, programmed K ctx.portIndex i e = none := fun i =>
    programmed_eq_none (not_writes_of_error herror .keyProg K.keyProgRequest)
  have hs : ∀ i, switched K ctx.portIndex i e = none := fun i =>
    switched_eq_none (not_writes_of_error herror .kSetGo K.kSetGoRequest)
      (not_writes_of_error herror .kSetStop K.kSetStopRequest)
  refine ⟨?_, fun i => ?_, fun i => ?_, fun i => ?_⟩
  · rw [latest_queried_snoc hq]
    exact hfold.portIndex
  · rw [sinceQuery_snoc hq, latest_snoc_of_none (hp i)]
    exact hfold.keyBuffer i
  · rw [sinceQuery_snoc hq, latest_snoc_of_none (hp i)]
    exact hfold.isKeyProg i
  · rw [sinceQuery_snoc hq, latest_snoc_of_none (hs i)]
    exact hfold.isKeySetGo i

/-- A `QUERY` starts the history of the slots anew. -/
theorem foldOf_snoc_query (hid : HasObjectId K .query e.input) (hok : e.output.status = .success) :
    FoldOf K (H ++ [e])
      (pciIdeKmDeviceQuery (K.queryRequest.decode (e.input.drop K.header.size))) := by
  have hq : queried K e = some (K.queryRequest.decode (e.input.drop K.header.size)) :=
    if_pos ⟨hid, hok⟩
  have hsince : sinceQuery K (H ++ [e]) = [] := sinceReset_snoc_of_reset (by rw [hq]; rfl)
  refine ⟨?_, fun i => ?_, fun i => ?_, fun i => ?_⟩
  · rw [latest_snoc_of_some hq]
    rfl
  all_goals rw [hsince]
  all_goals exact get_replicate _ i

/-- A `KEY_PROG` gives its slot a key. -/
theorem FoldOf.snoc_keyProg (hfold : FoldOf K H ctx) (hid : HasObjectId K .keyProg e.input)
    (hport : (readKey K K.keyProgRequest e.input).portIndex = ctx.portIndex)
    (hok : e.output.status = .success) :
    FoldOf K (H ++ [e])
      { ctx with
        keyBuffer := ctx.keyBuffer.set
          (keyIndex K (readKey K K.keyProgRequest e.input).keySubStream) (readKeyBuffer K e.input)
        isKeyProg := ctx.isKeyProg.set
          (keyIndex K (readKey K K.keyProgRequest e.input).keySubStream) true } := by
  have hq : queried K e = none := queried_eq_none_of_kind hid nofun
  have hs : ∀ i, switched K ctx.portIndex i e = none := fun i =>
    switched_eq_none (not_writes_of_kind hid (by decide) _) (not_writes_of_kind hid (by decide) _)
  -- the slot of the request gets its key, the others keep theirs
  have hp : ∀ i, programmed K ctx.portIndex i e =
      if i = keyIndex K (readKey K K.keyProgRequest e.input).keySubStream then
        some (readKeyBuffer K e.input) else none := by
    intro i
    by_cases hi : i = keyIndex K (readKey K K.keyProgRequest e.input).keySubStream
    · rw [if_pos hi]
      exact if_pos ⟨hid, hok, hport, hi.symm⟩
    · rw [if_neg hi]
      exact if_neg fun h => hi h.2.2.2.symm
  refine ⟨?_, fun i => ?_, fun i => ?_, fun i => ?_⟩
  · rw [latest_queried_snoc hq]
    exact hfold.portIndex
  · rw [sinceQuery_snoc hq, get_set]
    by_cases hi : i = keyIndex K (readKey K K.keyProgRequest e.input).keySubStream
    · rw [if_pos hi, latest_snoc_of_some ((hp i).trans (if_pos hi))]
      rfl
    · rw [if_neg hi, latest_snoc_of_none ((hp i).trans (if_neg hi))]
      exact hfold.keyBuffer i
  · rw [sinceQuery_snoc hq, get_set]
    by_cases hi : i = keyIndex K (readKey K K.keyProgRequest e.input).keySubStream
    · rw [if_pos hi, latest_snoc_of_some ((hp i).trans (if_pos hi))]
      rfl
    · rw [if_neg hi, latest_snoc_of_none ((hp i).trans (if_neg hi))]
      exact hfold.isKeyProg i
  · rw [sinceQuery_snoc hq, latest_snoc_of_none (hs i)]
    exact hfold.isKeySetGo i

/-- A `K_SET_GO` or `K_SET_STOP` switches its slot. -/
theorem switched_of_keySet {r : Request} {body : Packed KeyBody} {go : Bool}
    (hkind : r = .kSetGo ∧ go = true ∨ r = .kSetStop ∧ go = false)
    (hbody : keyLayout K r = some body) (hid : HasObjectId K r e.input)
    (hok : e.output.status = .success) (portIndex : UInt8)
    (hport : (readKey K body e.input).portIndex = portIndex) (i : Fin 4) :
    switched K portIndex i e =
      if i = keyIndex K (readKey K body e.input).keySubStream then some go else none := by
  have hwrites : ∀ r' body', r = r' → body = body' →
      (Writes K r' body' portIndex i e ↔ i = keyIndex K (readKey K body e.input).keySubStream) := by
    rintro _ _ rfl rfl
    exact ⟨fun h => h.2.2.2.symm, fun h => ⟨hid, hok, hport, h.symm⟩⟩
  rcases hkind with ⟨rfl, rfl⟩ | ⟨rfl, rfl⟩
  · obtain rfl : K.kSetGoRequest = body := Option.some.inj hbody
    have hstop : ¬ Writes K .kSetStop K.kSetStopRequest portIndex i e :=
      not_writes_of_kind hid (by decide) _
    rw [switched, if_congr (hwrites _ _ rfl rfl) rfl (if_neg hstop)]
  · obtain rfl : K.kSetStopRequest = body := Option.some.inj hbody
    have hgo : ¬ Writes K .kSetGo K.kSetGoRequest portIndex i e :=
      not_writes_of_kind hid (by decide) _
    rw [switched, if_neg hgo, if_congr (hwrites _ _ rfl rfl) rfl rfl]

theorem FoldOf.snoc_keySet (hfold : FoldOf K H ctx) {r : Request} {body : Packed KeyBody}
    {go : Bool} (hkind : r = .kSetGo ∧ go = true ∨ r = .kSetStop ∧ go = false)
    (hbody : keyLayout K r = some body) (hid : HasObjectId K r e.input)
    (hport : (readKey K body e.input).portIndex = ctx.portIndex)
    (hok : e.output.status = .success) :
    FoldOf K (H ++ [e])
      { ctx with
        isKeySetGo :=
          ctx.isKeySetGo.set (keyIndex K (readKey K body e.input).keySubStream) go } := by
  have hne : r ≠ .query ∧ r ≠ .keyProg := by
    rcases hkind with ⟨rfl, -⟩ | ⟨rfl, -⟩ <;> exact ⟨nofun, nofun⟩
  have hq : queried K e = none := queried_eq_none_of_kind hid hne.1
  have hp : ∀ i, programmed K ctx.portIndex i e = none := fun i =>
    programmed_eq_none (not_writes_of_kind hid hne.2 _)
  have hs := switched_of_keySet hkind hbody hid hok ctx.portIndex hport
  refine ⟨?_, fun i => ?_, fun i => ?_, fun i => ?_⟩
  · rw [latest_queried_snoc hq]
    exact hfold.portIndex
  · rw [sinceQuery_snoc hq, latest_snoc_of_none (hp i)]
    exact hfold.keyBuffer i
  · rw [sinceQuery_snoc hq, latest_snoc_of_none (hp i)]
    exact hfold.isKeyProg i
  · rw [sinceQuery_snoc hq, get_set]
    by_cases hi : i = keyIndex K (readKey K body e.input).keySubStream
    · rw [if_pos hi, latest_snoc_of_some ((hs i).trans (if_pos hi))]
      rfl
    · rw [if_neg hi, latest_snoc_of_none ((hs i).trans (if_neg hi))]
      exact hfold.isKeySetGo i

end Snoc

/-- One more request keeps the fold. -/
theorem FoldOf.step {H : List KeyEvent} {ctx : PortContext} (hfold : FoldOf K H ctx)
    (request : Bytes) :
    FoldOf K (H ++ [(responder K).event ctx request]) ((responder K).step ctx request).2 := by
  have heff := effect_step K ctx request
  simp only [Machine.event]
  generalize (responder K).step ctx request = result at heff ⊢
  cases heff with
  | refused hwhy herror => exact hfold.snoc_refused herror
  | query hid hsize hok => exact foldOf_snoc_query hid hok
  | keyProg hid hsize hport hok => exact hfold.snoc_keyProg hid hport hok
  | keySet r body go hkind hbody hid hsize hport hok =>
      exact hfold.snoc_keySet hkind hbody hid hport hok

/-- A refused request fails and changes nothing. -/
theorem step_of_refused {ctx : PortContext} {request : Bytes}
    (h : Refused K ctx.portIndex request) :
    ((responder K).step ctx request).1.status.isError = true ∧
      ((responder K).step ctx request).2 = ctx := by
  -- a request with one of the other effects has the size of its kind and the bound port
  have hnot : ∀ r, HasObjectId K r request → request.length = requestSize K r →
      (∀ body, keyLayout K r = some body → (readKey K body request).portIndex = ctx.portIndex) →
      False := by
    intro r hid hsize hport
    cases h with
    | unknown hunknown => exact hunknown r hid
    | wrongSize r' hid' hwrong =>
        obtain rfl := hid.unique hid'
        exact hwrong hsize
    | otherPort r' hid' body hbody hother =>
        obtain rfl := hid.unique hid'
        exact hother (hport body hbody)
  have heff := effect_step K ctx request
  generalize (responder K).step ctx request = result at heff ⊢
  cases heff with
  | refused hwhy herror => exact ⟨herror, rfl⟩
  | query hid hsize hok => exact (hnot .query hid hsize nofun).elim
  | keyProg hid hsize hport hok =>
      refine (hnot .keyProg hid hsize fun body hbody => ?_).elim
      rwa [← Option.some.inj hbody]
  | keySet r body go hkind hbody hid hsize hport hok =>
      refine (hnot r hid hsize fun body' hbody' => ?_).elim
      rwa [← Option.some.inj (hbody.symm.trans hbody')]

/-- **The port context is the fold of its history.** After any requests from the zeroed context,
with `p` the port of the last successful `QUERY` and `h` the events after it, each slot has the key
of the last `KEY_PROG` for it in `h`, and is active if the last `K_SET_GO` or `K_SET_STOP` for it in
`h` was the former. A next request of the wrong size, with an unknown object id or for another port
than `p` fails and changes nothing. -/
theorem port_context_of_history (K : PciIdeKm) (requests : List Bytes) :
    let H := (responder K).history .zeroed requests
    let h := sinceQuery K H
    let p := (latest (queried K) H).getD 0
    let ctx := (responder K).after .zeroed requests
    (∀ i : Fin 4,
      ctx.keyBuffer.get i = (latest (programmed K p i) h).getD (Vector.replicate _ 0) ∧
      ctx.isKeyProg.get i = (latest (programmed K p i) h).isSome ∧
      (ctx.isKeySetGo.get i = true ↔ latest (switched K p i) h = some true)) ∧
    ∀ request, Refused K p request →
      ((responder K).step ctx request).1.status.isError = true ∧
        ((responder K).step ctx request).2 = ctx := by
  intro H h p ctx
  have hfold : FoldOf K H ctx := (responder K).invariant_history (FoldOf K)
    (fun _ _ request hfold => hfold.step request) (foldOf_zeroed K) requests
  have hp : ctx.portIndex = p := hfold.portIndex
  constructor
  · intro i
    have hkey := hfold.keyBuffer i
    have hprog := hfold.isKeyProg i
    have hgo := hfold.isKeySetGo i
    rw [hp] at hkey hprog hgo
    refine ⟨hkey, hprog, ?_⟩
    rw [hgo]
    cases latest (switched K p i) (sinceQuery K H) <;> simp
  · intro request hrefused
    exact step_of_refused (hp ▸ hrefused)

end SpdmEmu.IdeKm
