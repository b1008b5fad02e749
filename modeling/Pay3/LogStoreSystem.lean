import Pay3.TransferLogStore

/-!
# Polls, rewinds and reorganisations

One stream of the store, the chain it reads, and the polls under way on it. The
chain is replaced at any time by any other chain; polls begin at any time, and
each goes on one step at a time; `rewind_to` is called at any time. A call of a
poll is answered from the canonical chain of that moment, or it fails.

A block hash commits to the block and, through the hash of the parent, to all
blocks before it. The ledger says what each hash commits to.

A poll in flight relies on what it has seen: on the blocks below its cursor once
the hash of the last one was right, on those it has compared while it walks, on
those of its batch once it has the logs. A chain that changes the transfers of
one of these blocks leaves the poll no longer intact.
-/

/-! ## The chain -/

/-- The transfers of the stream in one block of a chain, if the chain is as high. -/
def transfersAt (cfg : TransferLogStreamConfig) (blocks : List ChainBlock) (number : ℕ) :
    List TransferLog :=
  match blocks[number]? with
  | none => []
  | some b =>
    CanonicalChain.blockTransfers ⟨cfg.chainId, cfg.tokenAddress, number, number, none⟩ b

/-- What the hash of a block commits to: the blocks up to it. -/
structure HashLedger where
  history : BlockHash → List ChainBlock

/-- **The chain is one the ledger knows**: each hash on it commits to the blocks up to
it, the logs of a block have different indices, and the numbers of its blocks are
below the largest `u64`. -/
structure HashLedger.Knows (ledger : HashLedger) (chain : CanonicalChain) : Prop where
  history : ∀ p ∈ chain.blocks.zipIdx, ledger.history p.1.hash = chain.blocks.take (p.2 + 1)
  indexed : ∀ b ∈ chain.blocks, (b.transfers.map Transfer.logIndex).Nodup
  numbers : chain.blocks.length ≤ u64Max

instance (ledger : HashLedger) (chain : CanonicalChain) : Decidable (ledger.Knows chain) :=
  decidable_of_iff ((∀ p ∈ chain.blocks.zipIdx,
      ledger.history p.1.hash = chain.blocks.take (p.2 + 1))
    ∧ (∀ b ∈ chain.blocks, (b.transfers.map Transfer.logIndex).Nodup)
    ∧ chain.blocks.length ≤ u64Max)
    ⟨fun h => ⟨h.1, h.2.1, h.2.2⟩, fun h => ⟨h.history, h.indexed, h.numbers⟩⟩

/-- The block a tag is at. -/
def CanonicalChain.taggedHead (chain : CanonicalChain) (number : ℕ) :
    Except RpcChainError ChainBlockRef :=
  orError ((chain.blockByNumber number).map ChainBlock.blockRef) (.blockNotFound number)

/-- **A source that answers from the chain**, with the safe and the finalized block at
the given numbers. -/
def CanonicalChain.logStoreSource (chain : CanonicalChain) (safe finalized : ℕ) :
    LogStoreSource where
  latestHead := .ok chain.latestHead
  safeHead := chain.taggedHead safe
  finalizedHead := chain.taggedHead finalized
  blockByNumber := fun number => orError (chain.blockByNumber number) (.blockNotFound number)
  transferLogs := fun range =>
    if range.fromBlock ≤ range.toBlock then .ok (chain.transfersIn range)
    else .error (.invalidBlockRange range.fromBlock range.toBlock)

/-- A source whose calls fail. -/
def LogStoreSource.failing (error : RpcChainError) : LogStoreSource where
  latestHead := .error error
  safeHead := .error error
  finalizedHead := .error error
  blockByNumber := fun _ => .error error
  transferLogs := fun _ => .error error

/-! ## The system -/

/-- **A call of `poll_once`**: the cursor it read and where it is. -/
structure Poll where
  cursor : TransferLogCursor
  pc : PollPc
  /-- No chain since has changed the transfers of a block the poll relies on. -/
  intact : Bool
  /-- There was no reorganisation since it began. -/
  quiet : Bool
  deriving DecidableEq

/-- The state of the system. -/
structure LogStoreState where
  chain : CanonicalChain
  data : StreamData
  polls : List Poll

/-- One step of the system. -/
inductive LogStoreAction
  /-- The chain grows or is reorganised. -/
  | newChain (chain : CanonicalChain)
  /-- A call of `poll_once` reads the cursor. -/
  | pollOnce
  /-- A poll goes on. What it asks is answered from the chain, with the tags at the
  two numbers, or fails. -/
  | poll (i : ℕ) (tags : Except RpcChainError (ℕ × ℕ)) (now : Timestamp)
  | rewindTo (block : ℕ) (now : Timestamp)

section

variable (cfg : TransferLogStreamConfig)

/-- **The new chain leaves a block alone**: it still has the block, with the same
transfers of the stream. -/
def leavesAlone (chain chain' : CanonicalChain) (number : ℕ) : Bool :=
  decide (number < chain'.blocks.length)
    && decide (transfersAt cfg chain'.blocks number = transfersAt cfg chain.blocks number)

/-- The new chain leaves the blocks below a number alone, from the first of the
stream on. -/
def leavesBelow (chain chain' : CanonicalChain) (height : ℕ) : Bool :=
  (List.range height).all (fun number =>
    decide (number < cfg.startBlock) || leavesAlone cfg chain chain' number)

/-- **The stream relies on the blocks below this one.** A change from the floor on is
detected while the hash of the last completed block is remembered. -/
def StreamData.reach (data : StreamData) : ℕ :=
  match data.cursor.lastCompletedBlock, data.cursor.lastCompletedHash with
  | some last, some _ => reorgFloor cfg last
  | _, _ => data.cursor.nextBlock

end

/-- **The poll relies on the blocks below this one.** -/
def Poll.reach (data : StreamData) (p : Poll) : ℕ :=
  match p.pc with
  | .started =>
    match p.cursor.lastCompletedBlock, p.cursor.lastCompletedHash with
    | some _, some _ => 0
    | _, _ => p.cursor.nextBlock
  | .walking _ number => number
  | .comparing _ number current =>
    if data.headerHash number = some current then number + 1 else number
  | .rewinding firstDiverged => firstDiverged
  | .checked => p.cursor.nextBlock
  | .fetching _ => p.cursor.nextBlock
  | .gathering toBlock _ _ _ => toBlock + 1
  | .returned _ => 0

/-- A poll after a change of the chain. -/
def Poll.onNewChain (cfg : TransferLogStreamConfig) (data : StreamData)
    (chain chain' : CanonicalChain) (p : Poll) : Poll :=
  { p with
    intact := p.intact && leavesBelow cfg chain chain' (p.reach data)
    quiet := p.quiet && chain.blocks.isPrefixOf chain'.blocks }

/-- The poll has not returned. -/
def Poll.running (p : Poll) : Bool :=
  match p.pc with
  | .returned _ => false
  | _ => true

namespace LogStoreState

variable (cfg : TransferLogStreamConfig) (ledger : HashLedger)

/-- A stream that was just created, and no poll. -/
def initial (chain : CanonicalChain) (now : Timestamp) : LogStoreState :=
  ⟨chain, .initial cfg now, []⟩

/-- The source a step of a poll asks. -/
def source (s : LogStoreState) : Except RpcChainError (ℕ × ℕ) → LogStoreSource
  | .ok (safe, finalized) => s.chain.logStoreSource safe finalized
  | .error error => .failing error

/-- A poll and the stream after a step of the poll. -/
def afterPoll (s : LogStoreState) (i : ℕ) (p : Poll) (result : StreamData × PollPc) :
    LogStoreState :=
  { s with data := result.1, polls := s.polls.set i { p with pc := result.2 } }

/-- **One step of the system.** A poll that has returned does nothing more. -/
def step (s : LogStoreState) : LogStoreAction → Option LogStoreState
  | .newChain chain =>
    if ledger.Knows chain then
      some { s with
        chain := chain
        polls := s.polls.map (Poll.onNewChain cfg s.data s.chain chain) }
    else none
  | .pollOnce => some { s with polls := s.polls ++ [⟨s.data.cursor, .started, true, true⟩] }
  | .poll i tags now =>
    match s.polls[i]? with
    | none => none
    | some p =>
      if p.running then
        some (s.afterPoll i p (pollStep cfg (s.source tags) now p.cursor s.data p.pc))
      else none
  | .rewindTo block now => some { s with data := s.data.rewindTo cfg block now }

/-! ## The condition on the steps -/

/-- No rewind came since the poll read the cursor. -/
def Unrewound (s : LogStoreState) (p : Poll) : Prop :=
  p.cursor.reorgEpoch = s.data.cursor.reorgEpoch

/-- **No reorganisation waits to be detected**: the hash of the last completed block is
remembered and canonical. -/
def UpToDate (s : LogStoreState) : Prop :=
  s.data.cursor.lastCompletedHash ≠ none
    ∧ s.data.cursor.lastCompletedBlock.bind s.chain.hashAt = s.data.cursor.lastCompletedHash

/-- What is asked of a poll, by where it is. It is told the target only if the stream
was not rewound since it read the cursor; it rewinds only if, besides, the blocks
below the one it rewinds to did not change since it compared them; it writes only
at the block the cursor is at, and only if neither the blocks below nor those of
its batch changed since it saw them. -/
def PollFollowed (s : LogStoreState) (p : Poll) : PollPc → Prop
  | .checked => s.Unrewound p
  | .rewinding _ => s.Unrewound p ∧ p.intact = true ∧ s.data.cursor.reorgEpoch < u64Max
  | .gathering _ _ _ [] =>
    s.Unrewound p ∧ p.cursor.nextBlock = s.data.cursor.nextBlock ∧ p.intact = true
  | _ => True

/-- **What is asked of a step.** A new chain leaves the blocks alone that the stream
relies on. A call of `rewind_to` goes to one of these, or at most to the next block
while no reorganisation waits. The number of rewinds fits its field. -/
def Followed (s : LogStoreState) : LogStoreAction → Prop
  | .newChain chain => leavesBelow cfg s.chain chain (s.data.reach cfg) = true
  | .pollOnce => True
  | .poll i _ _ => ∀ p ∈ s.polls[i]?, s.PollFollowed p p.pc
  | .rewindTo block _ =>
    s.data.cursor.reorgEpoch < u64Max
      ∧ (max block cfg.startBlock ≤ s.data.reach cfg
        ∨ (max block cfg.startBlock ≤ s.data.cursor.nextBlock ∧ s.UpToDate))

instance (s : LogStoreState) (p : Poll) : Decidable (s.Unrewound p) :=
  inferInstanceAs (Decidable (_ = _))

instance (s : LogStoreState) : Decidable s.UpToDate :=
  inferInstanceAs (Decidable (_ ∧ _))

instance (s : LogStoreState) (p : Poll) : ∀ pc, Decidable (s.PollFollowed p pc)
  | .started => inferInstanceAs (Decidable True)
  | .walking _ _ => inferInstanceAs (Decidable True)
  | .comparing _ _ _ => inferInstanceAs (Decidable True)
  | .rewinding _ => inferInstanceAs (Decidable (_ ∧ _ ∧ _))
  | .checked => inferInstanceAs (Decidable (s.Unrewound p))
  | .fetching _ => inferInstanceAs (Decidable True)
  | .gathering _ _ _ [] => inferInstanceAs (Decidable (_ ∧ _ ∧ _))
  | .gathering _ _ _ (_ :: _) => inferInstanceAs (Decidable True)
  | .returned _ => inferInstanceAs (Decidable True)

instance (s : LogStoreState) : ∀ a, Decidable (s.Followed cfg a)
  | .newChain _ => inferInstanceAs (Decidable (_ = _))
  | .pollOnce => inferInstanceAs (Decidable True)
  | .poll _ _ _ => inferInstanceAs (Decidable (∀ p ∈ _, _))
  | .rewindTo _ _ => inferInstanceAs (Decidable (_ ∧ (_ ∨ _)))

end LogStoreState
