import AiAnalytics.App.State.Models
import AiAnalytics.Lib.Machine
import AiAnalytics.Lib.PaddedText
import Mathlib.Data.List.Sort

/-!
# The two message stores

The numeric codec of the DynamoDB repository: `_to_decimal` turns floats into decimals on the way
in, `_from_decimal` turns decimals into floats or integers on the way out and decides between the
two by the text of the decimal.

Then the two repositories. The first keeps each conversation's messages sorted by sequence number.
The second writes one item per message under a sort key that begins with the sequence number as
text, and reads back one page of one `Query`, in the order of the sort keys.
-/

namespace AiAnalytics.App

open Lib

variable {Float : Type}

section Codec

variable (ops : FloatOps Float)

mutual

def toDecimal : PyValue Float → PyValue Float
  | .float x => .decimal (ops.toDecimal x)
  | .dict entries => .dict (toDecimalEntries entries)
  | .list items => .list (toDecimalItems items)
  | value => value

def toDecimalItems : List (PyValue Float) → List (PyValue Float)
  | [] => []
  | item :: items => toDecimal item :: toDecimalItems items

def toDecimalEntries : List (String × PyValue Float) → List (String × PyValue Float)
  | [] => []
  | (key, value) :: entries => (key, toDecimal value) :: toDecimalEntries entries

end

mutual

def fromDecimal : PyValue Float → PyValue Float
  | .decimal d => if '.' ∈ d.str then .float (ops.ofDecimal d) else .int d.toInt
  | .dict entries => .dict (fromDecimalEntries entries)
  | .list items => .list (fromDecimalItems items)
  | value => value

def fromDecimalItems : List (PyValue Float) → List (PyValue Float)
  | [] => []
  | item :: items => fromDecimal item :: fromDecimalItems items

def fromDecimalEntries : List (String × PyValue Float) → List (String × PyValue Float)
  | [] => []
  | (key, value) :: entries => (key, fromDecimal value) :: fromDecimalEntries entries

end

end Codec

section Storage

mutual

/-- What DynamoDB may return for a value sent to it: every number as a decimal of the same numeric
value, with any exponent. An integer that never left the program is still an integer. -/
def Stored : PyValue Float → PyValue Float → Prop
  | .int n, returned => returned = .int n ∨ ∃ d, returned = .decimal d ∧ d.value = n
  | .decimal d, returned => ∃ d', returned = .decimal d' ∧ d'.value = d.value
  | .list items, returned => ∃ items', returned = .list items' ∧ StoredItems items items'
  | .dict entries, returned =>
    ∃ entries', returned = .dict entries' ∧ StoredEntries entries entries'
  | .float _, _ => False
  | value, returned => returned = value

def StoredItems : List (PyValue Float) → List (PyValue Float) → Prop
  | [], returned => returned = []
  | item :: items, returned =>
      ∃ item' items', returned = item' :: items' ∧ Stored item item' ∧ StoredItems items items'

def StoredEntries : List (String × PyValue Float) → List (String × PyValue Float) → Prop
  | [], returned => returned = []
  | (key, value) :: entries, returned =>
      ∃ value' entries', returned = (key, value') :: entries' ∧ Stored value value' ∧
        StoredEntries entries entries'

end

end Storage

section InMemory

structure InMemoryRepository (Float : Type) where
  conversations : List String
  messages : String → List (Message Float)

def sortBySequence (messages : List (Message Float)) : List (Message Float) :=
  messages.insertionSort fun a b => a.sequence ≤ b.sequence

def limited {α : Type} (limit : Option Int) (l : List α) : List α :=
  match limit with
  | some n => if 0 < n then l.take n.toNat else l
  | none => l

def InMemoryRepository.addMessage (repo : InMemoryRepository Float) (message : Message Float) :
    Except StateError (InMemoryRepository Float) :=
  if message.conversationId ∉ repo.conversations then
    .error (.conversationNotFound message.conversationId)
  else
    let messages := repo.messages message.conversationId
    if messages.any (·.messageId = message.messageId) then
      .error (.messageExists message.messageId)
    else
      .ok { repo with
        messages := Function.update repo.messages message.conversationId
          (sortBySequence (messages ++ [message])) }

def InMemoryRepository.listMessages (repo : InMemoryRepository Float) (conversationId : String)
    (limit : Option Int) : List (Message Float) :=
  limited limit (sortBySequence (repo.messages conversationId))

end InMemory

section DynamoDB

/-- One message item. Items of other kinds (the conversation's own, its runs) have sort keys with
other prefixes and are left out. -/
structure MessageItem (Float : Type) where
  pk : List Char
  sk : List Char
  messageId : String
  conversationId : String
  sequence : Int
  role : String
  content : String
  createdAt : String
  metadata : PyValue Float

structure DynamoTable (Float : Type) where
  conversations : List String
  items : List (MessageItem Float)

/-- How the database answers: the decimal it returns for an integer, what it returns for an
attribute, and the size it counts for an item. -/
structure Database (Float : Type) where
  number : Int → Decimal
  returned : PyValue Float → PyValue Float
  size : MessageItem Float → Nat

def pageLimit : Nat := 1048576

/-- `f"{sequence:06d}"` -/
def sequenceText (sequence : Int) : List Char :=
  if sequence < 0 then '-' :: zeroPad 5 sequence.natAbs else zeroPad 6 sequence.natAbs

def conversationKey (conversationId : String) : List Char := "CONV#".toList ++ conversationId.toList

def messageKey (sequence : Int) (messageId : String) : List Char :=
  "MSG#".toList ++ sequenceText sequence ++ '#' :: messageId.toList

def messageItem (ops : FloatOps Float) (message : Message Float) : MessageItem Float :=
  { pk := conversationKey message.conversationId
    sk := messageKey message.sequence message.messageId
    messageId := message.messageId
    conversationId := message.conversationId
    sequence := message.sequence
    role := message.role
    content := message.content
    createdAt := message.createdAt
    metadata := toDecimal ops message.metadata }

def DynamoTable.addMessage (ops : FloatOps Float) (table : DynamoTable Float)
    (message : Message Float) : Except StateError (DynamoTable Float) :=
  if message.conversationId ∉ table.conversations then
    .error (.conversationNotFound message.conversationId)
  else
    let item := messageItem ops message
    if table.items.any fun old => old.pk = item.pk ∧ old.sk = item.sk then
      .error (.messageExists message.messageId)
    else .ok { table with items := table.items ++ [item] }

def takePage (size : MessageItem Float → Nat) : Nat → List (MessageItem Float) →
    List (MessageItem Float)
  | _, [] => []
  | budget, item :: items =>
      if size item ≤ budget then item :: takePage size (budget - size item) items else []

def DynamoTable.query (db : Database Float) (table : DynamoTable Float) (pk keyStart : List Char)
    (limit : Option Int) : List (MessageItem Float) :=
  let items := table.items.filter fun item => item.pk = pk ∧ keyStart.isPrefixOf item.sk
  limited limit (takePage db.size pageLimit (items.insertionSort fun a b => a.sk ≤ b.sk))

def MessageItem.decode (ops : FloatOps Float) (db : Database Float) (item : MessageItem Float) :
    Message Float :=
  { messageId := item.messageId
    conversationId := item.conversationId
    sequence := (db.number item.sequence).toInt
    role := item.role
    content := item.content
    createdAt := item.createdAt
    metadata := fromDecimal ops (db.returned item.metadata) }

def DynamoTable.listMessages (ops : FloatOps Float) (db : Database Float)
    (table : DynamoTable Float) (conversationId : String) (limit : Option Int) :
    List (Message Float) :=
  (table.query db (conversationKey conversationId) "MSG#".toList limit).map (·.decode ops db)

end DynamoDB

section BothStores

structure MessageStores (Float : Type) where
  memory : InMemoryRepository Float
  table : DynamoTable Float

def MessageStores.init (conversations : List String) : MessageStores Float :=
  { memory := { conversations, messages := fun _ => [] }
    table := { conversations, items := [] } }

inductive MessageOp (Float : Type) where
  | add (message : Message Float)
  | list (conversationId : String)

def keepOnError {ε α : Type} (state : α) : Except ε α → α
  | .ok next => next
  | .error _ => state

def messageStep (ops : FloatOps Float) (stores : MessageStores Float) :
    MessageOp Float → Option (MessageStores Float)
  | .add message =>
      some
        { memory := keepOnError stores.memory (stores.memory.addMessage message)
          table := keepOnError stores.table (stores.table.addMessage ops message) }
  | .list _ => some stores

def messageMachine (ops : FloatOps Float) : Machine (MessageStores Float) (MessageOp Float) :=
  { step := messageStep ops }

end BothStores

end AiAnalytics.App
