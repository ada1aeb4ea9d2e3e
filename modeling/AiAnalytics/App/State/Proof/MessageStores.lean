import AiAnalytics.App.State.Messages
import AiAnalytics.App.State.Proof.CodecLossless

/-!
# When the two message stores agree

A conversation's items come back in the order of their sort keys and only as far as the first page
goes. The listing is the in-memory one exactly when the page holds every item, the sort keys are in
the order of the sequence numbers, and the codec keeps every metadata dictionary.
-/

namespace AiAnalytics.App

open Lib

variable {Float : Type} (ops : FloatOps Float) (db : Database Float)

structure Database.Lawful : Prop where
  value_number : ∀ n : Int, (db.number n).value = n
  stored : ∀ v, Plain ops v → Stored (toDecimal ops v) (db.returned (toDecimal ops v))

structure SameMessage (message got : Message Float) : Prop where
  messageId : got.messageId = message.messageId
  conversationId : got.conversationId = message.conversationId
  sequence : got.sequence = message.sequence
  role : got.role = message.role
  content : got.content = message.content
  createdAt : got.createdAt = message.createdAt
  metadata : Same ops message.metadata got.metadata

def KeyOrdered (a b : Int) : Prop := a.toNat ≤ leading 6 a.toNat b.toNat

instance (a b : Int) : Decidable (KeyOrdered a b) := inferInstanceAs (Decidable (_ ≤ _))

structure Readable (messages : List (Message Float)) : Prop where
  page : (messages.map fun message => db.size (messageItem ops message)).sum ≤ pageLimit
  keys : ∀ a ∈ messages, ∀ b ∈ messages, a.sequence < b.sequence → KeyOrdered a.sequence b.sequence
  metadata : ∀ message ∈ messages,
    Safe ops message.metadata (db.returned (toDecimal ops message.metadata))

section Keys

theorem messageKey_of_pos {n : Int} (hpos : 0 < n) (id : String) :
    messageKey n id = "MSG#".toList ++ (zeroPad 6 n.toNat ++ '#' :: id.toList) := by
  rw [messageKey, sequenceText, if_neg (by omega), List.append_assoc]
  congr 3
  omega

theorem messageKey_lt_iff {a b : Int} (ha : 0 < a) (hlt : a < b) (id id' : String) :
    messageKey a id < messageKey b id' ↔ KeyOrdered a b := by
  rw [messageKey_of_pos ha, messageKey_of_pos (ha.trans hlt), KeyOrdered,
    ← zeroPad_append_lt_iff (by omega) (by decide : '#' < '0') id.toList id'.toList]
  simp

theorem messageKey_ne {a b : Int} (ha : 0 < a) (hlt : a < b) (id id' : String) :
    messageKey a id ≠ messageKey b id' := by
  rw [messageKey_of_pos ha, messageKey_of_pos (ha.trans hlt)]
  intro heq
  exact zeroPad_append_ne (by omega) (by decide : '#' < '0') _ _ (List.append_cancel_left heq)

end Keys

section Page

variable {size : MessageItem Float → Nat} {budget : Nat} {items : List (MessageItem Float)}

theorem takePage_isPrefix : takePage size budget items <+: items := by
  induction items generalizing budget with
  | nil => exact List.prefix_rfl
  | cons item items ih =>
      rw [takePage]
      split
      · exact List.cons_prefix_cons.mpr ⟨rfl, ih⟩
      · exact List.nil_prefix

theorem takePage_eq_self_iff :
    takePage size budget items = items ↔ (items.map size).sum ≤ budget := by
  induction items generalizing budget with
  | nil => simp [takePage]
  | cons item items ih =>
      rw [takePage, List.map_cons, List.sum_cons]
      split
      case isTrue hfits =>
        rw [List.cons_inj_right, ih]
        omega
      case isFalse hfits => simpa using by omega

end Page

section Listing

variable {ops db}

structure Numbered (ops : FloatOps Float) (messages : List (Message Float)) : Prop where
  pos : ∀ message ∈ messages, 0 < message.sequence
  distinct : messages.Pairwise fun a b => a.sequence ≠ b.sequence
  plain : ∀ message ∈ messages, Plain ops message.metadata

theorem Numbered.perm {messages messages' : List (Message Float)}
    (hnumbered : Numbered ops messages) (hperm : messages'.Perm messages) :
    Numbered ops messages' where
  pos := fun message hmem => hnumbered.pos message (hperm.mem_iff.mp hmem)
  distinct := (hperm.pairwise_iff fun h => Ne.symm h).mpr hnumbered.distinct
  plain := fun message hmem => hnumbered.plain message (hperm.mem_iff.mp hmem)

theorem decode_sequence (hdb : db.Lawful ops) (message : Message Float) :
    ((messageItem ops message).decode ops db).sequence = message.sequence :=
  Decimal.toInt_eq_of_value_eq (hdb.value_number _)

theorem sameMessage_decode_iff (hlawful : ops.Lawful) (hdb : db.Lawful ops)
    {message : Message Float} (hplain : Plain ops message.metadata) :
    SameMessage ops message ((messageItem ops message).decode ops db) ↔
      Safe ops message.metadata (db.returned (toDecimal ops message.metadata)) := by
  rw [← same_fromDecimal_iff hlawful _ _ hplain (hdb.stored _ hplain)]
  constructor
  · exact fun hsame => hsame.metadata
  · exact fun hmetadata => ⟨rfl, rfl, decode_sequence hdb message, rfl, rfl, rfl, hmetadata⟩

theorem pairwise_sk_iff {sorted : List (Message Float)} (hnumbered : Numbered ops sorted)
    (hsorted : sorted.Pairwise fun a b => a.sequence ≤ b.sequence) :
    ((sorted.map (messageItem ops)).Pairwise fun a b => a.sk ≤ b.sk) ↔
      ∀ a ∈ sorted, ∀ b ∈ sorted, a.sequence < b.sequence → KeyOrdered a.sequence b.sequence := by
  have hstrict : sorted.Pairwise fun a b => a.sequence < b.sequence :=
    hsorted.imp₂ (fun _ _ hle hne => lt_of_le_of_ne hle hne) hnumbered.distinct
  rw [List.pairwise_map]
  constructor
  · intro hkeys
    refine List.Pairwise.forall_of_forall_of_flip (fun a _ hlt => absurd hlt (lt_irrefl _)) ?_ ?_
    · refine hkeys.imp_of_mem fun {a b} ha hb hkey hlt => ?_
      have hne := messageKey_ne (hnumbered.pos a ha) hlt a.messageId b.messageId
      exact (messageKey_lt_iff (hnumbered.pos a ha) hlt a.messageId b.messageId).mp
        (lt_of_le_of_ne hkey hne)
    · exact hstrict.imp fun hlt hgt => absurd hgt (not_lt.mpr hlt.le)
  · intro hkeys
    refine hstrict.imp_of_mem fun {a b} ha hb hlt => ?_
    exact ((messageKey_lt_iff (hnumbered.pos a ha) hlt _ _).mpr (hkeys a ha b hb hlt)).le

theorem eq_of_sequence_eq {messages : List (Message Float)} (hnumbered : Numbered ops messages)
    {a b : Message Float} (ha : a ∈ messages) (hb : b ∈ messages)
    (heq : a.sequence = b.sequence) : a = b := by
  have hsymm : Std.Symm fun a b : Message Float => a.sequence ≠ b.sequence := ⟨fun _ _ h => h.symm⟩
  by_contra hne
  exact hnumbered.distinct.forall ha hb hne heq

theorem eq_of_sk_eq {messages : List (Message Float)} (hnumbered : Numbered ops messages)
    {a b : Message Float} (ha : a ∈ messages) (hb : b ∈ messages)
    (heq : messageKey a.sequence a.messageId = messageKey b.sequence b.messageId) : a = b := by
  refine eq_of_sequence_eq hnumbered ha hb ?_
  rcases lt_trichotomy a.sequence b.sequence with hlt | hseq | hgt
  · exact absurd heq (messageKey_ne (hnumbered.pos a ha) hlt _ _)
  · exact hseq
  · exact absurd heq.symm (messageKey_ne (hnumbered.pos b hb) hgt _ _)

variable {messages sorted keyed : List (Message Float)}

theorem eq_of_forall₂_sequence (hnumbered : Numbered ops messages) (hsorted : sorted.Perm messages)
    (hkeyed : keyed.Perm messages)
    (hsame : List.Forall₂ (fun a b : Message Float => a.sequence = b.sequence) sorted keyed) :
    sorted = keyed := by
  rw [← List.forall₂_eq_eq_eq, List.forall₂_iff_zip]
  refine ⟨hsame.length_eq, fun {a b} hmem => ?_⟩
  obtain ⟨ha, hb⟩ := List.of_mem_zip hmem
  exact eq_of_sequence_eq hnumbered (hsorted.mem_iff.mp ha) (hkeyed.mem_iff.mp hb)
    ((List.forall₂_iff_zip.mp hsame).2 hmem)

theorem eq_keyed_iff (hnumbered : Numbered ops messages) (hperm : sorted.Perm messages)
    (hsorted : sorted.Pairwise fun a b => a.sequence ≤ b.sequence) (hkeyed : keyed.Perm messages)
    (hkeys : (keyed.map (messageItem ops)).Pairwise fun a b => a.sk ≤ b.sk) :
    sorted = keyed ↔ ∀ a ∈ messages, ∀ b ∈ messages, a.sequence < b.sequence →
      KeyOrdered a.sequence b.sequence := by
  have hiff := pairwise_sk_iff (hnumbered.perm hperm) hsorted
  simp only [hperm.mem_iff] at hiff
  rw [← hiff]
  constructor
  · rintro rfl
    exact hkeys
  · intro hordered
    rw [List.pairwise_map] at hordered hkeys
    refine List.Perm.eq_of_pairwise (fun a b ha hb hab hba => ?_) hordered hkeys
      (hperm.trans hkeyed.symm)
    exact eq_of_sk_eq hnumbered (hperm.mem_iff.mp ha) (hkeyed.mem_iff.mp hb) (le_antisymm hab hba)

theorem listing_iff (hlawful : ops.Lawful) (hdb : db.Lawful ops) (hnumbered : Numbered ops messages)
    (hperm : sorted.Perm messages)
    (hsorted : sorted.Pairwise fun a b => a.sequence ≤ b.sequence) :
    List.Forall₂ (SameMessage ops) sorted
        ((takePage db.size pageLimit
          ((messages.map (messageItem ops)).insertionSort fun a b => a.sk ≤ b.sk)).map
            (·.decode ops db)) ↔
      Readable ops db messages := by
  set keyed := messages.insertionSort fun a b => (messageItem ops a).sk ≤ (messageItem ops b).sk
  have hkeyed : keyed.Perm messages := List.perm_insertionSort _ _
  have hitems : (messages.map (messageItem ops)).insertionSort (fun a b => a.sk ≤ b.sk) =
      keyed.map (messageItem ops) :=
    (List.map_insertionSort (fun a b => (messageItem ops a).sk ≤ (messageItem ops b).sk) _
      (messageItem ops) messages fun _ _ _ _ => Iff.rfl).symm
  have hkeys : (keyed.map (messageItem ops)).Pairwise fun a b => a.sk ≤ b.sk := by
    rw [List.pairwise_map]
    exact List.pairwise_insertionSort _ _
  have heq := eq_keyed_iff hnumbered hperm hsorted hkeyed hkeys
  have hpage : takePage db.size pageLimit (keyed.map (messageItem ops)) = keyed.map
      (messageItem ops) ↔
      (messages.map fun message => db.size (messageItem ops message)).sum ≤ pageLimit := by
    rw [takePage_eq_self_iff, List.map_map, (hkeyed.map _).sum_eq]
    rfl
  rw [hitems]
  constructor
  · intro hsame
    have hfull : takePage db.size pageLimit (keyed.map (messageItem ops)) =
        keyed.map (messageItem ops) := by
      refine takePage_isPrefix.eq_of_length ?_
      have hlength := hsame.length_eq
      rw [List.length_map, hperm.length_eq, ← hkeyed.length_eq] at hlength
      rw [← hlength, List.length_map]
    rw [hfull, List.map_map, List.forall₂_map_right_iff] at hsame
    have hlist : sorted = keyed := by
      refine eq_of_forall₂_sequence hnumbered hperm hkeyed (hsame.imp fun a b h => ?_)
      rw [← h.sequence]
      exact decode_sequence hdb b
    refine ⟨hpage.mp hfull, heq.mp hlist, fun message hmem => ?_⟩
    rw [← hlist, List.forall₂_same] at hsame
    exact (sameMessage_decode_iff hlawful hdb (hnumbered.plain message hmem)).mp
      (hsame message (hperm.mem_iff.mpr hmem))
  · intro hreadable
    rw [hpage.mpr hreadable.page, List.map_map, List.forall₂_map_right_iff,
      ← heq.mpr hreadable.keys, List.forall₂_same]
    intro message hmem
    have hmem := hperm.mem_iff.mp hmem
    exact (sameMessage_decode_iff hlawful hdb (hnumbered.plain message hmem)).mpr
      (hreadable.metadata message hmem)

theorem Readable.perm {messages' : List (Message Float)} (hperm : messages'.Perm messages) :
    Readable ops db messages' ↔ Readable ops db messages := by
  have hsum := (hperm.map fun message => db.size (messageItem ops message)).sum_eq
  constructor
  · intro h
    exact ⟨hsum ▸ h.page, fun a ha b hb => h.keys a (hperm.mem_iff.mpr ha) b (hperm.mem_iff.mpr hb),
      fun message hmem => h.metadata message (hperm.mem_iff.mpr hmem)⟩
  · intro h
    exact ⟨hsum ▸ h.page, fun a ha b hb => h.keys a (hperm.mem_iff.mp ha) b (hperm.mem_iff.mp hb),
      fun message hmem => h.metadata message (hperm.mem_iff.mp hmem)⟩

end Listing

section Runs

def MessageOp.added : MessageOp Float → Option (Message Float)
  | .add message => some message
  | .list _ => none

/-- Both stores accept the message, or both list the same messages in the same order. -/
def Agrees (stores : MessageStores Float) : MessageOp Float → Prop
  | .add message =>
    (stores.memory.addMessage message).isOk ∧ (stores.table.addMessage ops message).isOk
  | .list conversationId =>
      List.Forall₂ (SameMessage ops) (stores.memory.listMessages conversationId none)
        (stores.table.listMessages ops db conversationId none)

def ReadableAt (stores : MessageStores Float) : MessageOp Float → Prop
  | .add _ => True
  | .list conversationId => Readable ops db (stores.memory.messages conversationId)

/-- Messages of existing conversations, with positive sequence numbers, distinct ids and distinct
sequence numbers within a conversation, and metadata the codec is meant for. -/
structure Admissible (conversations : List String) (messages : List (Message Float)) : Prop where
  existing : ∀ message ∈ messages, message.conversationId ∈ conversations
  pos : ∀ message ∈ messages, 0 < message.sequence
  distinct : messages.Pairwise fun a b => a.conversationId = b.conversationId →
    a.messageId ≠ b.messageId ∧ a.sequence ≠ b.sequence
  plain : ∀ message ∈ messages, Plain ops message.metadata

structure Holds (conversations : List String) (added : List (Message Float))
    (stores : MessageStores Float) : Prop where
  memoryConversations : stores.memory.conversations = conversations
  tableConversations : stores.table.conversations = conversations
  items : stores.table.items = added.map (messageItem ops)
  messages : ∀ conversationId, (stores.memory.messages conversationId).Perm
    (added.filter (·.conversationId = conversationId))

variable {ops db} {conversations : List String} {added : List (Message Float)}
  {message : Message Float} {stores : MessageStores Float}

theorem Admissible.of_append {later : List (Message Float)}
    (hadmissible : Admissible ops conversations (added ++ later)) :
    Admissible ops conversations added where
  existing := fun message hmem => hadmissible.existing message (List.mem_append_left _ hmem)
  pos := fun message hmem => hadmissible.pos message (List.mem_append_left _ hmem)
  distinct := (List.pairwise_append.mp hadmissible.distinct).1
  plain := fun message hmem => hadmissible.plain message (List.mem_append_left _ hmem)

theorem Admissible.numbered (hadmissible : Admissible ops conversations added)
    (conversationId : String) :
    Numbered ops (added.filter (·.conversationId = conversationId)) where
  pos := fun message hmem => hadmissible.pos message (List.mem_of_mem_filter hmem)
  distinct := by
    refine (hadmissible.distinct.filter _).imp_of_mem fun {a b} ha hb hdistinct => ?_
    have ha : a.conversationId = conversationId := by simpa using (List.mem_filter.mp ha).2
    have hb : b.conversationId = conversationId := by simpa using (List.mem_filter.mp hb).2
    exact (hdistinct (ha.trans hb.symm)).2
  plain := fun message hmem => hadmissible.plain message (List.mem_of_mem_filter hmem)

theorem Admissible.fresh (hadmissible : Admissible ops conversations (added ++ [message]))
    {old : Message Float} (hmem : old ∈ added) (heq : old.conversationId = message.conversationId) :
    old.messageId ≠ message.messageId ∧ old.sequence ≠ message.sequence :=
  (List.pairwise_append.mp hadmissible.distinct).2.2 old hmem message List.mem_cons_self heq

theorem conversationKey_inj {id id' : String} :
    conversationKey id = conversationKey id' ↔ id = id' := by
  rw [conversationKey, conversationKey, List.append_cancel_left_eq, String.toList_inj]

theorem memory_addMessage (hholds : Holds ops conversations added stores)
    (hadmissible : Admissible ops conversations (added ++ [message])) :
    stores.memory.addMessage message = .ok { stores.memory with
      messages := Function.update stores.memory.messages message.conversationId
        (sortBySequence (stores.memory.messages message.conversationId ++ [message])) } := by
  have hexists : message.conversationId ∈ stores.memory.conversations := by
    rw [hholds.memoryConversations]
    exact hadmissible.existing message (by simp)
  have hnew : (stores.memory.messages message.conversationId).any
      (·.messageId = message.messageId) = false := by
    rw [List.any_eq_false]
    intro old hmem
    obtain ⟨hold, hsame⟩ := List.mem_filter.mp ((hholds.messages _).mem_iff.mp hmem)
    have hfresh := hadmissible.fresh hold (by simpa using hsame)
    simpa using hfresh.1
  simp [InMemoryRepository.addMessage, hexists, hnew]

theorem table_addMessage (hholds : Holds ops conversations added stores)
    (hadmissible : Admissible ops conversations (added ++ [message])) :
    stores.table.addMessage ops message =
      .ok { stores.table with items := stores.table.items ++ [messageItem ops message] } := by
  have hexists : message.conversationId ∈ stores.table.conversations := by
    rw [hholds.tableConversations]
    exact hadmissible.existing message (by simp)
  have hnew : (stores.table.items.any fun old =>
      old.pk = (messageItem ops message).pk ∧ old.sk = (messageItem ops message).sk) = false := by
    rw [hholds.items, List.any_eq_false]
    intro item hmem
    obtain ⟨old, hold, rfl⟩ := List.mem_map.mp hmem
    rw [decide_eq_true_iff]
    rintro ⟨hpk, hsk⟩
    have hfresh := hadmissible.fresh hold (conversationKey_inj.mp hpk)
    have hpos := hadmissible.pos old (List.mem_append_left _ hold)
    have hpos' := hadmissible.pos message (by simp)
    rcases lt_or_gt_of_ne hfresh.2 with hlt | hgt
    · exact messageKey_ne hpos hlt _ _ hsk
    · exact messageKey_ne hpos' hgt _ _ hsk.symm
  simp only [DynamoTable.addMessage, hexists, not_true_eq_false, ↓reduceIte, hnew,
    Bool.false_eq_true]

theorem Holds.add (hholds : Holds ops conversations added stores)
    (hadmissible : Admissible ops conversations (added ++ [message])) :
    Holds ops conversations (added ++ [message])
      { memory := keepOnError stores.memory (stores.memory.addMessage message)
        table := keepOnError stores.table (stores.table.addMessage ops message) } := by
  rw [memory_addMessage hholds hadmissible, table_addMessage hholds hadmissible]
  refine ⟨hholds.memoryConversations, hholds.tableConversations, ?_, ?_⟩
  · simp [keepOnError, hholds.items]
  · intro conversationId
    rw [List.filter_append]
    by_cases heq : conversationId = message.conversationId
    · subst heq
      simp only [keepOnError, Function.update_self, List.filter_cons, decide_true, ↓reduceIte,
        List.filter_nil]
      exact (List.perm_insertionSort _ _).trans ((hholds.messages _).append_right _)
    · have hne : message.conversationId ≠ conversationId := Ne.symm heq
      simpa [keepOnError, Function.update_of_ne heq, hne] using hholds.messages conversationId

theorem Holds.query (hholds : Holds ops conversations added stores) (conversationId : String) :
    stores.table.listMessages ops db conversationId none =
      (takePage db.size pageLimit
        (((added.filter (·.conversationId = conversationId)).map (messageItem ops)).insertionSort
          fun a b => a.sk ≤ b.sk)).map (·.decode ops db) := by
  have hselect : stores.table.items.filter (fun item =>
      item.pk = conversationKey conversationId ∧ "MSG#".toList.isPrefixOf item.sk) =
        (added.filter (·.conversationId = conversationId)).map (messageItem ops) := by
    rw [hholds.items, List.filter_map]
    congr 1
    refine List.filter_congr fun message _ => ?_
    have hstart : "MSG#".toList.isPrefixOf (messageItem ops message).sk = true := by
      rw [List.isPrefixOf_iff_prefix, messageItem, messageKey, List.append_assoc]
      exact List.prefix_append _ _
    simp only [Function.comp_apply, hstart, and_true]
    exact decide_eq_decide.mpr conversationKey_inj
  rw [DynamoTable.listMessages, DynamoTable.query]
  simp only [limited, hselect]

theorem agrees_iff (hlawful : ops.Lawful) (hdb : db.Lawful ops)
    (hholds : Holds ops conversations added stores)
    (hadmissible : Admissible ops conversations added)
    (conversationId : String) :
    Agrees ops db stores (.list conversationId) ↔
      ReadableAt ops db stores (.list conversationId) := by
  have hperm := hholds.messages conversationId
  rw [Agrees, ReadableAt, hholds.query, Readable.perm hperm]
  refine listing_iff hlawful hdb (hadmissible.numbered conversationId)
    ((List.perm_insertionSort _ _).trans hperm) (List.pairwise_insertionSort _ _)

theorem meets_agrees_iff (hlawful : ops.Lawful) (hdb : db.Lawful ops)
    {operations : List (MessageOp Float)} (hholds : Holds ops conversations added stores)
    (hadmissible : Admissible ops conversations (added ++ operations.filterMap MessageOp.added)) :
    (messageMachine ops).Meets (Agrees ops db) stores operations ↔
      (messageMachine ops).Meets (ReadableAt ops db) stores operations := by
  induction operations generalizing added stores with
  | nil => exact Iff.rfl
  | cons operation operations ih =>
      cases operation with
      | add message =>
          have hadded : (MessageOp.add message).added = some message := rfl
          rw [List.filterMap_cons_some hadded, List.append_cons] at hadmissible
          have hnow := hadmissible.of_append
          have haccepted : Agrees ops db stores (.add message) := by
            simp only [Agrees, memory_addMessage hholds hnow, table_addMessage hholds hnow]
            exact ⟨rfl, rfl⟩
          rw [Machine.meets_cons_of_step rfl, Machine.meets_cons_of_step rfl,
            ih (hholds.add hnow) hadmissible]
          exact and_congr_left fun _ => iff_of_true haccepted trivial
      | list conversationId =>
          rw [List.filterMap_cons_none rfl] at hadmissible
          rw [Machine.meets_cons_of_step rfl, Machine.meets_cons_of_step rfl, ih hholds hadmissible]
          exact and_congr_left fun _ =>
            agrees_iff hlawful hdb hholds hadmissible.of_append conversationId

theorem holds_init (ops : FloatOps Float) (conversations : List String) :
    Holds ops conversations [] (.init conversations) where
  memoryConversations := rfl
  tableConversations := rfl
  items := rfl
  messages := fun _ => List.Perm.refl _

end Runs

/-- **When the stores agree.** Over every sequence of additions and listings, both stores accept
every message and every listing gives the same messages in the same order, if and only if each
conversation that is listed fits into one page at that moment, its sort keys are in the order of its
sequence numbers, and the codec keeps its metadata. -/
theorem message_stores_agree_iff_readable (hlawful : ops.Lawful) (hdb : db.Lawful ops)
    (conversations : List String) (operations : List (MessageOp Float))
    (hadmissible : Admissible ops conversations (operations.filterMap MessageOp.added)) :
    (messageMachine ops).Meets (Agrees ops db) (.init conversations) operations ↔
      (messageMachine ops).Meets (ReadableAt ops db) (.init conversations) operations :=
  meets_agrees_iff hlawful hdb (holds_init ops conversations) hadmissible

/-! Messages with empty metadata in one conversation, read back without any change of exponents. The
size of an item is that of its attributes' names and values. -/

def plainMessage (sequence : Int) (messageId : String) : Message Decimal :=
  { messageId, conversationId := "c", sequence, role := "user", content := "hi", createdAt := "",
    metadata := .dict [] }

def exactDatabase : Database Decimal :=
  { number := fun n => { negative := n < 0, coefficient := n.natAbs, exponent := 0 }
    returned := fun v => v
    size := fun item => 103 + item.pk.length + item.sk.length + item.messageId.utf8ByteSize +
      item.conversationId.utf8ByteSize + item.role.utf8ByteSize + item.content.utf8ByteSize +
      item.createdAt.utf8ByteSize }

theorem exactDatabase_lawful : exactDatabase.Lawful reprFloats where
  value_number := by
    intro n
    rcases lt_or_ge n 0 with hneg | hpos
    · simp [exactDatabase, Decimal.value, Decimal.sign, hneg, abs_of_neg]
    · simpa [exactDatabase, Decimal.value, Decimal.sign, not_lt.mpr hpos] using hpos
  stored := stored_toDecimal

theorem admissible_plainMessages (sequences : List (Int × String)) (hpos : ∀ s ∈ sequences, 0 < s.1)
    (hdistinct : sequences.Pairwise fun s t => s.2 ≠ t.2 ∧ s.1 ≠ t.1) :
    Admissible reprFloats ["c"] (sequences.map fun s => plainMessage s.1 s.2) where
  existing := List.forall_mem_map.mpr fun _ _ => List.mem_cons_self
  pos := List.forall_mem_map.mpr hpos
  distinct := by
    rw [List.pairwise_map]
    refine hdistinct.imp ?_
    intro s t h _
    exact h
  plain := List.forall_mem_map.mpr fun _ _ => trivial

theorem message_stores_agree_two :
    (messageMachine reprFloats).Meets (Agrees reprFloats exactDatabase) (.init ["c"])
      [.add (plainMessage 2 "b"), .add (plainMessage 1 "a"), .list "c"] := by
  have hadmissible := admissible_plainMessages [(2, "b"), (1, "a")] (by decide) (by decide)
  refine (message_stores_agree_iff_readable reprFloats exactDatabase reprFloats_lawful
    exactDatabase_lawful ["c"] [.add (plainMessage 2 "b"), .add (plainMessage 1 "a"), .list "c"]
    hadmissible).mpr ?_
  rw [Machine.meets_cons_of_step rfl, Machine.meets_cons_of_step rfl,
    Machine.meets_cons_of_step rfl]
  refine ⟨trivial, trivial, ?_, Machine.meets_nil⟩
  change Readable _ _ [plainMessage 1 "a", plainMessage 2 "b"]
  refine ⟨by decide, ?_, ?_⟩
  · simp [plainMessage]
    decide
  · simp [plainMessage, Safe, toDecimal, toDecimalEntries, exactDatabase, SafeEntries]

/-- The millionth message is listed before the one that precedes it. -/
theorem millionth_message_listed_first :
    ∃ stores, (messageMachine reprFloats).run (.init ["c"])
        [.add (plainMessage 999999 "a"), .add (plainMessage 1000000 "b")] = some stores ∧
      (stores.memory.listMessages "c" none).map (·.sequence) = [999999, 1000000] ∧
      (stores.table.listMessages reprFloats exactDatabase "c" none).map (·.sequence) =
        [1000000, 999999] ∧
      ¬ Agrees reprFloats exactDatabase stores (.list "c") := by
  have hlists : ∃ stores, (messageMachine reprFloats).run (.init ["c"])
      [.add (plainMessage 999999 "a"), .add (plainMessage 1000000 "b")] = some stores ∧
      (stores.memory.listMessages "c" none).map (·.sequence) = [999999, 1000000] ∧
      (stores.table.listMessages reprFloats exactDatabase "c" none).map (·.sequence) =
        [1000000, 999999] :=
    ⟨_, rfl, by decide, by decide⟩
  obtain ⟨stores, hrun, hmemory, htable⟩ := hlists
  refine ⟨stores, hrun, hmemory, htable, fun hagrees => ?_⟩
  have hsequences : (stores.memory.listMessages "c" none).map (·.sequence) =
      (stores.table.listMessages reprFloats exactDatabase "c" none).map (·.sequence) := by
    rw [← List.forall₂_eq_eq_eq, List.forall₂_map_left_iff, List.forall₂_map_right_iff]
    exact hagrees.imp fun a b hsame => hsame.sequence.symm
  rw [hmemory, htable] at hsequences
  exact absurd hsequences (by decide)

end AiAnalytics.App
