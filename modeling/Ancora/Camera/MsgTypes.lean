import Ancora.Camera.Device

/-!
# Message types (cameraHAL.cpp)

`camera_enable_msg_type`, `camera_disable_msg_type` and `camera_msg_type_enabled` take
masks of message types, of which two are special: SHUTTER is not to be disabled, and the
hardware does not know RAW_IMAGE_NOTIFY, which stands for RAW_IMAGE.

- The hardware keeps a mask (`MaskLaws`): enabling sets bits, disabling clears them, and a
  query "operates as an AND".
- `Session.said` is the client's view: the last thing it said about each type, with
  RAW_IMAGE_NOTIFY read as RAW_IMAGE, and with SHUTTER never taken back.
- `Answered`: a query of any mask is answered from what the client said last.
- **`client_view_kept_iff`**: all queries are, exactly if SHUTTER is disabled only alone or
  while it is not enabled, RAW_IMAGE_NOTIFY is disabled only together with RAW_IMAGE or while
  that is off, and a mask with RAW_IMAGE_NOTIFY is queried only while the bit of that type in
  the hardware does not change the answer.
-/

namespace Ancora.Camera.MsgTypes

open Machine

variable {σ π : Type}

/-- The types, by the number of their bit. -/
def shutterBit : Nat := 1

def rawImageBit : Nat := 7

def rawImageNotifyBit : Nat := 9

/-- What is assumed of the hardware. -/
structure MaskLaws (hw : Hardware σ π) (mask : σ → BitVec 32) : Prop where
  enable : ∀ m s, mask (hw.enableMsgType m s) = mask s ||| m
  disable : ∀ m s, mask (hw.disableMsgType m s) = mask s &&& ~~~m
  enabled : ∀ m s, (hw.msgTypeEnabled m s).1 = decide (mask s &&& m = m)
  asked : ∀ m s, mask (hw.msgTypeEnabled m s).2 = mask s

/-- The calls of a client. -/
inductive Call
  | enable (msgType : BitVec 32)
  | disable (msgType : BitVec 32)
  | enabled (msgType : BitVec 32)
  deriving DecidableEq, Repr

/-- Type `i` is named by a mask; RAW_IMAGE_NOTIFY is another name of RAW_IMAGE. -/
def names (msgType : BitVec 32) (i : Nat) : Bool :=
  msgType.getLsbD i || (i == rawImageBit && msgType.getLsbD rawImageNotifyBit)

/-- The last thing the client said about each type, after one more call. -/
def say (said : Nat → Option Bool) : Call → Nat → Option Bool
  | .enable m, i => if names m i = true then some true else said i
  | .disable m, i => if names m i = true ∧ i ≠ shutterBit then some false else said i
  | .enabled _, i => said i

/-- A device and what its client said. -/
structure Session (σ : Type) where
  dev : Device σ
  said : Nat → Option Bool

def step (hw : Hardware σ π) (s : Session σ) (c : Call) : Option (Session σ) :=
  let dev := match c with
    | .enable m => s.dev.cameraEnableMsgType hw m
    | .disable m => s.dev.cameraDisableMsgType hw m
    | .enabled m => (s.dev.cameraMsgTypeEnabled hw m).2
  some ⟨dev, say s.said c⟩

/-- The types that a query is about, where RAW_IMAGE_NOTIFY stands for RAW_IMAGE. -/
def asks (msgType : BitVec 32) (i : Nat) : Bool := names msgType i && i != rawImageNotifyBit

/-- The client enabled all of these types last. -/
def AllSaidOn (said : Nat → Option Bool) (msgType : BitVec 32) : Prop :=
  ∀ i, i < 32 → asks msgType i = true → said i = some true

instance (said : Nat → Option Bool) (msgType : BitVec 32) : Decidable (AllSaidOn said msgType) :=
  inferInstanceAs (Decidable (∀ i, i < 32 → asks msgType i = true → said i = some true))

/-- A query of a mask gives what the client said last: it is on if all of its types are, and
off if one of them is. -/
structure Answered (hw : Hardware σ π) (s : Session σ) (m : BitVec 32) : Prop where
  on : AllSaidOn s.said m → (s.dev.cameraMsgTypeEnabled hw m).1 = true
  off : ∀ i, i < 32 → asks m i = true → s.said i = some false →
    (s.dev.cameraMsgTypeEnabled hw m).1 = false

/-- After the call a query of any other types than RAW_IMAGE_NOTIFY is answered as the client
said last, and if the call was a query, whatever its mask, so was this one. -/
def ViewKept (hw : Hardware σ π) (o : Session σ × Call × Session σ) : Prop :=
  (∀ m, m.getLsbD rawImageNotifyBit = false → Answered hw o.2.2 m) ∧
    ∀ m, o.2.1 = .enabled m → Answered hw o.1 m

/-- The calls that the translation gets right. -/
def translated (mask : σ → BitVec 32) (s : Session σ) : Call → Prop
  | .enable _ => True
  | .disable m =>
    (m.getLsbD shutterBit = true → m = msgShutter ∨ s.said shutterBit ≠ some true) ∧
      (m.getLsbD rawImageNotifyBit = true →
        m.getLsbD rawImageBit = true ∨ (mask s.dev.hw).getLsbD rawImageBit = false)
  | .enabled m => m.getLsbD rawImageNotifyBit = true →
      (AllSaidOn s.said m → (mask s.dev.hw).getLsbD rawImageNotifyBit = true) ∧
      (s.said rawImageBit = some false →
        (mask s.dev.hw).getLsbD rawImageNotifyBit = false ∨
          ∃ i, i < 32 ∧ i ≠ rawImageNotifyBit ∧ m.getLsbD i = true ∧
            (mask s.dev.hw).getLsbD i = false)

instance (mask : σ → BitVec 32) (s : Session σ) : (c : Call) → Decidable (translated mask s c)
  | .enable _ => .isTrue trivial
  | .disable _ => inferInstanceAs (Decidable ((_ → _ ∨ _) ∧ (_ → _ ∨ _)))
  | .enabled _ => inferInstanceAs (Decidable (_ → (_ → _) ∧ (_ → _ ∨ _)))

/-! ## Bits -/

theorem msgShutter_eq : msgShutter = BitVec.twoPow 32 shutterBit := rfl

theorem msgRawImageNotify_eq : msgRawImageNotify = BitVec.twoPow 32 rawImageNotifyBit := rfl

theorem getLsbD_msgShutter {i : Nat} (h : i ≠ shutterBit) : msgShutter.getLsbD i = false := by
  rw [msgShutter_eq, BitVec.getLsbD_twoPow]
  simp [Ne.symm h]

theorem getLsbD_msgRawImage (i : Nat) : msgRawImage.getLsbD i = (i == rawImageBit) := by
  have heq : msgRawImage = BitVec.twoPow 32 rawImageBit := rfl
  rw [heq, BitVec.getLsbD_twoPow]
  simp [rawImageBit, eq_comm, beq_eq_decide]

theorem getLsbD_msgRawImageNotify {i : Nat} (h : i ≠ rawImageNotifyBit) :
    msgRawImageNotify.getLsbD i = false := by
  rw [msgRawImageNotify_eq, BitVec.getLsbD_twoPow]
  simp [Ne.symm h]

/-- Whether all bits of one mask are in another. -/
theorem and_eq_right_iff {x m : BitVec 32} :
    x &&& m = m ↔ ∀ i, i < 32 → m.getLsbD i = true → x.getLsbD i = true := by
  constructor
  · intro heq i _ hm
    rw [← heq, BitVec.getLsbD_and] at hm
    exact (Bool.and_eq_true_iff.mp hm).1
  · intro hall
    refine BitVec.eq_of_getLsbD_eq fun i hi => ?_
    rw [BitVec.getLsbD_and]
    cases hm : m.getLsbD i with
    | false => rw [Bool.and_false]
    | true => rw [hall i hi hm, Bool.and_true]

theorem and_msgRawImageNotify_ne_zero_iff {m : BitVec 32} :
    m &&& msgRawImageNotify ≠ 0 ↔ m.getLsbD rawImageNotifyBit = true := by
  rw [msgRawImageNotify_eq, BitVec.and_twoPow]
  split
  case isTrue h => exact iff_of_true (by decide) h
  case isFalse h => exact iff_of_false (not_not.mpr rfl) h

section Masks

variable {hw : Hardware σ π} {mask : σ → BitVec 32} {s : Session σ}

/-- The device answers that a mask is on when the hardware has all of its bits. -/
theorem answer_eq_true_iff (laws : MaskLaws hw mask) (m : BitVec 32) :
    (s.dev.cameraMsgTypeEnabled hw m).1 = true ↔
      ∀ i, i < 32 → m.getLsbD i = true → (mask s.dev.hw).getLsbD i = true := by
  show (hw.msgTypeEnabled m s.dev.hw).1 = true ↔ _
  rw [laws.enabled, decide_eq_true_iff, and_eq_right_iff]

theorem answer_eq_false_of (laws : MaskLaws hw mask) {m : BitVec 32} {i : Nat} (hi : i < 32)
    (hm : m.getLsbD i = true) (hoff : (mask s.dev.hw).getLsbD i = false) :
    (s.dev.cameraMsgTypeEnabled hw m).1 = false := by
  rw [← Bool.not_eq_true, answer_eq_true_iff laws]
  intro hall
  rw [hall i hi hm] at hoff
  cases hoff

/-- Enabling sets the bits of the types that are named. -/
theorem getLsbD_enable (laws : MaskLaws hw mask) (m : BitVec 32) {i : Nat} (hi : i < 32)
    (hne : i ≠ rawImageNotifyBit) :
    (mask (s.dev.cameraEnableMsgType hw m).hw).getLsbD i =
      ((mask s.dev.hw).getLsbD i || names m i) := by
  unfold Device.cameraEnableMsgType names
  simp only [and_msgRawImageNotify_ne_zero_iff]
  rw [laws.enable, BitVec.getLsbD_or]
  congr 1
  split
  case isTrue h =>
    rw [h, Bool.and_true, BitVec.getLsbD_or, BitVec.getLsbD_and, BitVec.getLsbD_not,
      getLsbD_msgRawImage, getLsbD_msgRawImageNotify hne]
    simp [hi]
  case isFalse h =>
    rw [Bool.not_eq_true] at h
    rw [h, Bool.and_false, Bool.or_false]

/-- Disabling clears the bits of a mask, except that of SHUTTER when it is alone. -/
theorem getLsbD_disable (laws : MaskLaws hw mask) (m : BitVec 32) {i : Nat} (hi : i < 32) :
    (mask (s.dev.cameraDisableMsgType hw m).hw).getLsbD i =
      ((mask s.dev.hw).getLsbD i && (m == msgShutter || !m.getLsbD i)) := by
  unfold Device.cameraDisableMsgType
  split
  case isTrue h => simp [h]
  case isFalse h =>
    have hbeq : (m == msgShutter) = false := beq_false_of_ne h
    rw [laws.disable, BitVec.getLsbD_and, BitVec.getLsbD_not, hbeq]
    simp [hi]

/-- The hardware's mask has what the client said last. -/
def Agrees (mask : σ → BitVec 32) (s : Session σ) : Prop :=
  ∀ i, i < 32 → i ≠ rawImageNotifyBit → ∀ b ∈ s.said i, (mask s.dev.hw).getLsbD i = b

theorem asks_iff {m : BitVec 32} {i : Nat} : asks m i = true ↔
    (m.getLsbD i = true ∨ i = rawImageBit ∧ m.getLsbD rawImageNotifyBit = true) ∧
      i ≠ rawImageNotifyBit := by
  simp [asks, names]

/-- Then masks without RAW_IMAGE_NOTIFY are answered from it. -/
theorem Agrees.answered (laws : MaskLaws hw mask) (h : Agrees mask s) {m : BitVec 32}
    (hm : m.getLsbD rawImageNotifyBit = false) : Answered hw s m := by
  constructor
  · intro hsaid
    rw [answer_eq_true_iff laws]
    intro i hi hbit
    have hne : i ≠ rawImageNotifyBit := by
      rintro rfl
      rw [hm] at hbit
      cases hbit
    exact h i hi hne true (hsaid i hi (asks_iff.mpr ⟨.inl hbit, hne⟩))
  · intro i hi hasks hsaid
    obtain ⟨hbit | ⟨-, hnotify⟩, hne⟩ := asks_iff.mp hasks
    · exact answer_eq_false_of laws hi hbit (h i hi hne false hsaid)
    · rw [hm] at hnotify
      cases hnotify

/-- The masks of single types are enough to tell what the hardware's mask has. -/
theorem agrees_of_answered (laws : MaskLaws hw mask)
    (h : ∀ m, m.getLsbD rawImageNotifyBit = false → Answered hw s m) : Agrees mask s := by
  intro i hi hne b hb
  have hself : (BitVec.twoPow 32 i).getLsbD i = true := by simp [hi]
  have hother {j : Nat} (hj : (BitVec.twoPow 32 i).getLsbD j = true) : j = i := by
    rw [BitVec.getLsbD_twoPow, Bool.and_eq_true, decide_eq_true_iff, decide_eq_true_iff] at hj
    exact hj.2.symm
  have hplain : (BitVec.twoPow 32 i).getLsbD rawImageNotifyBit = false := by
    rw [← Bool.not_eq_true]
    exact fun hj => hne (hother hj).symm
  have hanswered := h _ hplain
  cases b with
  | true =>
    refine (answer_eq_true_iff laws _).mp (hanswered.on ?_) i hi hself
    intro j _ hasks
    obtain ⟨hj | ⟨-, hnotify⟩, -⟩ := asks_iff.mp hasks
    · rw [hother hj]
      exact hb
    · rw [hplain] at hnotify
      cases hnotify
  | false =>
    have hoff := hanswered.off i hi (asks_iff.mpr ⟨.inl hself, hne⟩) hb
    rw [← Bool.not_eq_true] at hoff ⊢
    intro hon
    refine hoff ((answer_eq_true_iff laws _).mpr fun j _ hj => ?_)
    rw [hother hj]
    exact hon

/-- A mask with RAW_IMAGE_NOTIFY is answered so unless the bit of this type changes it. -/
theorem Agrees.answered_iff (laws : MaskLaws hw mask) (h : Agrees mask s) (m : BitVec 32) :
    Answered hw s m ↔ translated mask s (.enabled m) := by
  cases hm : m.getLsbD rawImageNotifyBit with
  | false =>
    refine iff_of_true (h.answered laws hm) fun hnotify => ?_
    rw [hm] at hnotify
    cases hnotify
  | true =>
    have hraw : asks m rawImageBit = true := asks_iff.mpr ⟨.inr ⟨rfl, hm⟩, by decide⟩
    constructor
    · intro hanswered _
      refine ⟨fun hsaid => (answer_eq_true_iff laws m).mp (hanswered.on hsaid) _ (by decide) hm,
        fun hsaid => ?_⟩
      have hoff := hanswered.off rawImageBit (by decide) hraw hsaid
      rw [← Bool.not_eq_true, answer_eq_true_iff laws] at hoff
      push Not at hoff
      obtain ⟨i, hi, hbit, hclear⟩ := hoff
      rw [ne_eq, Bool.not_eq_true] at hclear
      by_cases hne : i = rawImageNotifyBit
      · exact .inl (hne ▸ hclear)
      · exact .inr ⟨i, hi, hne, hbit, hclear⟩
    · intro ht
      obtain ⟨hon, hoff⟩ := ht hm
      constructor
      · intro hsaid
        rw [answer_eq_true_iff laws]
        intro i hi hbit
        by_cases hne : i = rawImageNotifyBit
        · rw [hne]
          exact hon hsaid
        · exact h i hi hne true (hsaid i hi (asks_iff.mpr ⟨.inl hbit, hne⟩))
      · intro i hi hasks hsaid
        obtain ⟨hbit | ⟨rfl, -⟩, hne⟩ := asks_iff.mp hasks
        · exact answer_eq_false_of laws hi hbit (h i hi hne false hsaid)
        · rcases hoff hsaid with hclear | ⟨j, hj, -, hbit, hclear⟩
          · exact answer_eq_false_of laws (by decide) hm hclear
          · exact answer_eq_false_of laws hj hbit hclear

theorem Agrees.enable (laws : MaskLaws hw mask) (h : Agrees mask s) (m : BitVec 32) :
    Agrees mask ⟨s.dev.cameraEnableMsgType hw m, say s.said (.enable m)⟩ := by
  intro i hi hne b hb
  replace hb : b ∈ say s.said (.enable m) i := hb
  rw [getLsbD_enable laws m hi hne]
  by_cases hnames : names m i = true
  · rw [say, if_pos hnames, Option.mem_some_iff] at hb
    rw [hnames, Bool.or_true, hb]
  · rw [say, if_neg hnames] at hb
    rw [Bool.not_eq_true] at hnames
    rw [hnames, Bool.or_false]
    exact h i hi hne b hb

/-- SHUTTER is lost in a mask with other types. -/
theorem Agrees.shutter_kept (laws : MaskLaws hw mask) {m : BitVec 32}
    (h : Agrees mask ⟨s.dev.cameraDisableMsgType hw m, say s.said (.disable m)⟩)
    (hm : m.getLsbD shutterBit = true) : m = msgShutter ∨ s.said shutterBit ≠ some true := by
  by_contra hnot
  obtain ⟨hne, hsaid⟩ := not_or.mp hnot
  rw [not_not] at hsaid
  have hstill : say s.said (.disable m) shutterBit = some true := by
    rw [say, if_neg (by simp), hsaid]
  have hkept := h shutterBit (by decide) (by decide) true hstill
  rw [getLsbD_disable laws m (by decide), hm, beq_false_of_ne hne] at hkept
  simp at hkept

/-- RAW_IMAGE stays on when RAW_IMAGE_NOTIFY is disabled. -/
theorem Agrees.rawImage_off (laws : MaskLaws hw mask) {m : BitVec 32}
    (h : Agrees mask ⟨s.dev.cameraDisableMsgType hw m, say s.said (.disable m)⟩)
    (hm : m.getLsbD rawImageNotifyBit = true) :
    m.getLsbD rawImageBit = true ∨ (mask s.dev.hw).getLsbD rawImageBit = false := by
  cases hraw : m.getLsbD rawImageBit with
  | true => exact .inl rfl
  | false =>
    have hnames : names m rawImageBit = true := by simp [names, hm]
    have hsaid : say s.said (.disable m) rawImageBit = some false := by
      rw [say, if_pos ⟨hnames, by decide⟩]
    have hoff := h rawImageBit (by decide) (by decide) false hsaid
    rw [getLsbD_disable laws m (by decide), hraw] at hoff
    exact .inr (by simpa using hoff)

theorem Agrees.disable (laws : MaskLaws hw mask) (h : Agrees mask s) {m : BitVec 32}
    (hshutter : m.getLsbD shutterBit = true → m = msgShutter ∨ s.said shutterBit ≠ some true)
    (hraw : m.getLsbD rawImageNotifyBit = true →
      m.getLsbD rawImageBit = true ∨ (mask s.dev.hw).getLsbD rawImageBit = false) :
    Agrees mask ⟨s.dev.cameraDisableMsgType hw m, say s.said (.disable m)⟩ := by
  intro i hi hne b hb
  replace hb : b ∈ say s.said (.disable m) i := hb
  rw [getLsbD_disable laws m hi]
  by_cases hi1 : i = shutterBit
  · subst hi1
    rw [say, if_neg (by simp)] at hb
    have hbit := h shutterBit hi hne b hb
    cases hm : m.getLsbD shutterBit with
    | false => simpa using hbit
    | true =>
      rcases hshutter hm with rfl | hsaid
      · simpa using hbit
      · cases b with
        | true => exact absurd hb hsaid
        | false => rw [hbit, Bool.false_and]
  · by_cases hnames : names m i = true
    · rw [say, if_pos ⟨hnames, hi1⟩, Option.mem_some_iff] at hb
      subst hb
      cases hm : m.getLsbD i with
      | true =>
        have hother : m ≠ msgShutter := by
          rintro rfl
          rw [getLsbD_msgShutter hi1] at hm
          cases hm
        simp [beq_false_of_ne hother]
      | false =>
        -- the type is RAW_IMAGE, under its other name
        simp only [names, hm, Bool.false_or, Bool.and_eq_true, beq_iff_eq] at hnames
        obtain ⟨rfl, hnotify⟩ := hnames
        have hoff := (hraw hnotify).resolve_left (by rw [hm]; exact Bool.false_ne_true)
        rw [hoff, Bool.false_and]
    · rw [say, if_neg fun hboth => hnames hboth.1] at hb
      have hm : m.getLsbD i = false := by
        simp only [names, Bool.or_eq_true, not_or, Bool.not_eq_true] at hnames
        exact hnames.1
      simpa [hm] using h i hi hne b hb

/-- The view is kept by a call exactly if the translation gets it right. -/
theorem viewKept_iff (laws : MaskLaws hw mask) (h : Agrees mask s) {c : Call} {s' : Session σ}
    (hs : step hw s c = some s') :
    (ViewKept hw (s, c, s') ↔ translated mask s c) ∧ (translated mask s c → Agrees mask s') := by
  have hanswers (t : Session σ) : (∀ m, m.getLsbD rawImageNotifyBit = false → Answered hw t m) ↔
      Agrees mask t := ⟨agrees_of_answered laws, fun h m hm => h.answered laws hm⟩
  unfold ViewKept
  rw [hanswers]
  cases c with
  | enable m =>
    cases hs
    have hagrees := h.enable laws m
    exact ⟨iff_of_true ⟨hagrees, nofun⟩ trivial, fun _ => hagrees⟩
  | disable m =>
    cases hs
    have hkeep : translated mask s (.disable m) → Agrees mask _ :=
      fun ht => h.disable laws ht.1 ht.2
    refine ⟨⟨?_, fun ht => ⟨hkeep ht, nofun⟩⟩, hkeep⟩
    rintro ⟨hagrees, -⟩
    exact ⟨hagrees.shutter_kept laws, hagrees.rawImage_off laws⟩
  | enabled m =>
    cases hs
    have hagrees : Agrees mask ⟨(s.dev.cameraMsgTypeEnabled hw m).2, say s.said (.enabled m)⟩ := by
      intro i hi hne b hb
      show (mask (hw.msgTypeEnabled m s.dev.hw).2).getLsbD i = b
      rw [laws.asked]
      exact h i hi hne b hb
    refine ⟨?_, fun _ => hagrees⟩
    rw [and_iff_right hagrees]
    rw [← h.answered_iff laws m]
    constructor
    · intro hall
      exact hall m rfl
    · intro hanswered m' heq
      cases heq
      exact hanswered

end Masks

/-- **The client's view of the message types**: through every run of enable, disable and
query calls, what is reported is what the client said last, exactly if every call is one
that the translation gets right. -/
theorem client_view_kept_iff {hw : Hardware σ π} {mask : σ → BitVec 32} (laws : MaskLaws hw mask)
    {dev : Device σ} {calls : List Call} {s : Session σ}
    {h : List (Session σ × Call × Session σ)}
    (hrun : exec (observe (fun s c s' => [(s, c, s')]) (step hw)) (⟨dev, fun _ => none⟩, []) calls =
      some (s, h)) :
    (∀ o ∈ h, ViewKept hw o) ↔
      exec (restrict (translated mask) (step hw)) ⟨dev, fun _ => none⟩ calls = some s := by
  have hstep : ∀ (s : Session σ) c s', Agrees mask s → step hw s c = some s' →
      ((∀ o ∈ [(s, c, s')], ViewKept hw o) ↔ translated mask s c) := by
    intro s c s' hs hst
    rw [List.forall_mem_singleton]
    exact (viewKept_iff laws hs hst).1
  have hkeep : ∀ (s : Session σ) c s', Agrees mask s → translated mask s c →
      step hw s c = some s' → Agrees mask s' :=
    fun s c s' hs ht hst => (viewKept_iff laws hs hst).2 ht
  have hstart : Agrees mask (⟨dev, fun _ => none⟩ : Session σ) := nofun
  rw [observe_forall_iff_of_inv hstep hkeep hstart hrun]
  exact and_iff_right nofun

/-- Hardware that is nothing but its mask. -/
def maskHardware : Hardware (BitVec 32) Unit :=
  { quietHardware (BitVec 32) with
    enableMsgType := fun m s => s ||| m
    disableMsgType := fun m s => s &&& ~~~m
    msgTypeEnabled := fun m s => (decide (s &&& m = m), s) }

theorem maskHardware_laws : MaskLaws maskHardware id := ⟨fun _ _ => rfl, fun _ _ => rfl,
  fun _ _ => rfl, fun _ _ => rfl⟩

/-- SHUTTER and FOCUS are enabled, and then disabled one by one; a mask of FOCUS and
RAW_IMAGE_NOTIFY is off. -/
theorem client_view_kept_one_by_one :
    ∃ s h,
      exec (observe (fun s c s' => [(s, c, s')]) (step maskHardware))
        (⟨⟨0, 0⟩, fun _ => none⟩, []) [.enable 0x6, .disable 0x4, .disable 0x2, .enabled 0x204] =
        some (s, h) ∧
      s.dev.hw = msgShutter ∧ ∀ o ∈ h, ViewKept maskHardware o := by
  have hrun : exec (observe (fun s c s' => [(s, c, s')]) (step maskHardware))
      (⟨⟨0, 0⟩, fun _ => none⟩, []) [.enable 0x6, .disable 0x4, .disable 0x2, .enabled 0x204] =
      some _ := rfl
  exact ⟨_, _, hrun, rfl, (client_view_kept_iff maskHardware_laws hrun).mpr rfl⟩

/-- SHUTTER is enabled, and disabled together with FOCUS: it is reported disabled. -/
theorem shutter_lost_in_a_mask :
    ¬ ∀ (σ π : Type) (hw : Hardware σ π) (mask : σ → BitVec 32) (dev : Device σ)
      (calls : List Call) (s : Session σ) (h : List (Session σ × Call × Session σ)),
      MaskLaws hw mask →
      exec (observe (fun s c s' => [(s, c, s')]) (step hw)) (⟨dev, fun _ => none⟩, []) calls =
        some (s, h) →
      ∀ o ∈ h, ViewKept hw o := by
  intro hall
  have hbad := hall (BitVec 32) Unit maskHardware id ⟨0, 0⟩ [.enable 0x2, .disable 0x6] _ _
    maskHardware_laws rfl _ (List.mem_cons_of_mem _ List.mem_cons_self)
  have hreport := (hbad.1 msgShutter (by decide)).on (by decide)
  exact absurd hreport (by decide)

end Ancora.Camera.MsgTypes
