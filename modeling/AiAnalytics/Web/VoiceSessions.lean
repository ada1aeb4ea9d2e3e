import AiAnalytics.Lib.Machine
import AiAnalytics.Lib.OrderedDict

/-!
# Voice sessions

A call of `startListening` is a session: it asks for the microphone, sets up its capture and opens a
socket. The references of the hook are shared by all sessions, and so is what reads them: the
clean-up that every socket handler calls, and the timer that a stop leaves behind. Whatever the
browser calls is one step of the machine. The volume meter, the samples and the frames are left out.
-/

namespace AiAnalytics.Web

open Lib

section State

inductive SocketState where
  | none | connecting | opened | closing | closed
deriving DecidableEq

structure Session where
  /-- `getUserMedia` is awaited. -/
  requesting : Bool
  socket : SocketState
  /-- The stop message was sent on the socket. -/
  stopSent : Bool
  /-- The tracks of the media stream run. -/
  stream : Bool
  /-- The audio context is open. -/
  context : Bool
  analyser : Bool
  processor : Bool
deriving DecidableEq

def Session.requested : Session := ⟨true, .none, false, false, false, false, false⟩

structure Voice where
  isListening : Bool
  isProcessing : Bool
  error : Option String
  /-- What `onTranscript` was called with. -/
  transcripts : List String
  socketRef : Option Nat
  mediaStreamRef : Option Nat
  audioContextRef : Option Nat
  analyserRef : Option Nat
  processorNodeRef : Option Nat
  /-- The number of calls of `startListening`; the sessions are numbered from 1. -/
  started : Nat
  sessions : OrderedDict Nat Session
  /-- The session that was the last to open a socket, 0 before the first. -/
  current : Nat
  /-- The timers of `stopListening`, each by the session that was current. -/
  stopTimers : List Nat

def Voice.mount : Voice where
  isListening := false
  isProcessing := false
  error := none
  transcripts := []
  socketRef := none
  mediaStreamRef := none
  audioContextRef := none
  analyserRef := none
  processorNodeRef := none
  started := 0
  sessions := .empty
  current := 0
  stopTimers := []

inductive SetUpCall where
  | audioContext | analyser | webSocket | scriptProcessor
deriving DecidableEq

inductive SetUp where
  | ready
  /-- The call throws; the message is empty if the error has none. -/
  | failed (call : SetUpCall) (message : String)
deriving DecidableEq

def SetUp.passes : SetUp → SetUpCall → Bool
  | .ready, _ => true
  | .failed .audioContext _, _ => false
  | .failed .analyser _, call => call = .audioContext
  | .failed .webSocket _, call => call = .audioContext ∨ call = .analyser
  | .failed .scriptProcessor _, call => call ≠ .scriptProcessor

inductive SocketEvent where
  | opened
  | transcriptFinal (text : String)
  | voiceCompleted
  | voiceError (error : String)
  | otherMessage
  | error
  | closed

inductive VoiceLabel where
  | startListening
  /-- `getUserMedia` has rejected; the name tells a missing permission. -/
  | denied (session : Nat) (permission : Bool) (message : String)
  | granted (session : Nat) (setUp : SetUp)
  | socketEvent (session : Nat) (event : SocketEvent)
  | stopListening
  | stopTimer (session : Nat)
  | unmount

end State

section Sockets

def SocketState.live (socket : SocketState) : Bool := socket = .connecting ∨ socket = .opened

def SocketState.pending (socket : SocketState) : Bool := socket.live ∨ socket = .closing

/-- `close()` -/
def SocketState.close (socket : SocketState) : SocketState :=
  if socket.live then .closing else socket

def SocketEvent.possible : SocketEvent → SocketState → Bool
  | .opened, socket => socket = .connecting
  | .error, socket | .closed, socket => socket.pending
  | _, socket => socket = .opened

def SocketEvent.after : SocketEvent → SocketState → SocketState
  | .opened, _ => .opened
  | .closed, _ => .closed
  | _, socket => socket

end Sockets

namespace Voice

variable (state : Voice)

def change (sessions : OrderedDict Nat Session) (ref : Option Nat) (f : Session → Session) :
    OrderedDict Nat Session :=
  match ref with
  | none => sessions
  | some id => sessions.modify id f

def cleanupAudio : Voice :=
  let sessions := change state.sessions state.processorNodeRef fun session =>
    { session with processor := false }
  let sessions := change sessions state.analyserRef fun session =>
    { session with analyser := false }
  let sessions := change sessions state.mediaStreamRef fun session =>
    { session with stream := false }
  let sessions := change sessions state.audioContextRef fun session =>
    { session with context := false }
  { state with
    sessions := sessions
    processorNodeRef := none
    analyserRef := none
    mediaStreamRef := none
    audioContextRef := none }

def shutDown : Voice := { state.cleanupAudio with isListening := false, isProcessing := false }

def stopListening : Voice :=
  if !state.isListening then state
  else
    let sessions := change state.sessions state.socketRef fun session =>
      if session.socket = .opened then { session with stopSent := true } else session
    { { state with sessions := sessions }.cleanupAudio with
      isListening := false
      isProcessing := true
      stopTimers := state.stopTimers ++ [state.current] }

def stopTimer (session : Nat) : Voice :=
  { state with
    isProcessing := false
    sessions := change state.sessions state.socketRef fun session =>
      if session.socket = .opened then { session with socket := session.socket.close } else session
    stopTimers := state.stopTimers.erase session }

def startListening : Voice :=
  { state with
    error := none
    started := state.started + 1
    sessions := state.sessions.set (state.started + 1) .requested }

def denied (session : Nat) (permission : Bool) (message : String) : Voice :=
  { state with
    error := some <|
      if permission then
        "Microphone permission denied. Please allow microphone access in your browser."
      else if message = "" then "Failed to access microphone." else message
    sessions := state.sessions.modify session fun session => { session with requesting := false } }

/-- The references and the session as far as the set-up gets. -/
def setUp (session : Nat) (setUp : SetUp) : Voice :=
  { state with
    mediaStreamRef := some session
    audioContextRef := if setUp.passes .audioContext then some session else state.audioContextRef
    analyserRef := if setUp.passes .analyser then some session else state.analyserRef
    socketRef := if setUp.passes .webSocket then some session else state.socketRef
    current := if setUp.passes .webSocket then session else state.current
    processorNodeRef := if setUp.passes .scriptProcessor then some session
      else state.processorNodeRef
    sessions := state.sessions.set session
      { requesting := false
        socket := if setUp.passes .webSocket then .connecting else .none
        stopSent := false
        stream := true
        context := setUp.passes .audioContext
        analyser := setUp.passes .analyser
        processor := setUp.passes .scriptProcessor } }

def granted (session : Nat) (setUp : SetUp) : Voice :=
  match setUp with
  | .ready => state.setUp session .ready
  | .failed call message =>
      { (state.setUp session (.failed call message)).shutDown with
        error := some (if message = "" then "Failed to initialize audio capture." else message) }

def socketAfter (session : Nat) (event : SocketEvent) : Voice :=
  { state with
    sessions := state.sessions.modify session fun session =>
      { session with socket := event.after session.socket } }

def handleSocket (session : Nat) (event : SocketEvent) : Voice :=
  match event with
  | .opened => { state with isListening := true, isProcessing := false }
  | .transcriptFinal text =>
    if text = "" then state else { state with transcripts := state.transcripts ++ [text] }
  | .voiceCompleted => state.shutDown
  | .voiceError error =>
      let ended := state.shutDown
      { ended with
        error := some (if error = "" then "Speech transcription service error." else error)
        sessions := ended.sessions.modify session fun session =>
          { session with socket := session.socket.close } }
  | .otherMessage => state
  | .error =>
      { state.shutDown with
        error := some "Voice connection error. Please ensure backend is reachable." }
  | .closed => state.shutDown

def unmount : Voice :=
  let ended := state.cleanupAudio
  { ended with
    sessions := change ended.sessions ended.socketRef fun session =>
      { session with socket := session.socket.close }
    socketRef := none }

end Voice

def voiceHook : Machine Voice VoiceLabel where
  step state
    | .startListening => some state.startListening
    | .denied session permission message =>
        if state.sessions.get? session =
          some .requested then some (state.denied session permission message) else none
    | .granted session setUp =>
        if state.sessions.get? session = some .requested then some (state.granted session setUp)
          else none
    | .socketEvent session event =>
        if (state.sessions.get? session).any fun session => event.possible session.socket then
          some ((state.socketAfter session event).handleSocket session event)
        else none
    | .stopListening => some state.stopListening
    | .stopTimer session =>
      if session ∈ state.stopTimers then some (state.stopTimer session) else none
    | .unmount => some state.unmount

end AiAnalytics.Web
