import Constellation.Lib.Keepalive

/-!
# Compile-time constants

The constants of `Config.h` that the modelled code reads.
-/

namespace Constellation.Config

/-- The port ground control listens on. -/
def GC_PORT : Int32 := 8000

/-- The size of a receive buffer. -/
def BUFFER_SIZE : Nat := 2048

/-- How long `recvfrom` waits for a datagram; it is set in microseconds. -/
def TIMEOUT_MS : Nat := 100

/-- Seconds between reconnect attempts. -/
def RECONNECT_INTERVAL : Nat := 10

/-- Seconds without a message before a link counts as timed out. -/
def TIMEOUT_THRESHOLD : Nat := 20

def MAX_RECONNECT_ATTEMPTS : Nat := 10

def MAX_FILE_CHUNKS : Nat := 100

/-- How many lines of the configuration file count. -/
def MAX_CONFIG_LINES : Nat := 100

def FILE_CHUNK_SIZE : Nat := 1024

/-- The seconds of a tick of the simulation: the double 1. -/
def TIME_STEP : UInt64 := 0x3FF0000000000000

/-- The timing of a link, the same on both sides. -/
def keepalive : Keepalive where
  timeout := TIMEOUT_THRESHOLD
  interval := RECONNECT_INTERVAL

end Constellation.Config
