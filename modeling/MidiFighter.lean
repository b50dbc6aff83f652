import MidiFighter.Machine
import MidiFighter.Pairing
import MidiFighter.Cells
import MidiFighter.Ring
import MidiFighter.Packets
import MidiFighter.Sysex
import MidiFighter.SysexSafety
import MidiFighter.SysexFraming
import MidiFighter.SysexRoundTrip
import MidiFighter.Colours
import MidiFighter.BulkXfer
import MidiFighter.Keys
import MidiFighter.Debounce
import MidiFighter.Combo
import MidiFighter.ComboGrammar
import MidiFighter.Eeprom
import MidiFighter.PowerLoss
import MidiFighter.Device
import MidiFighter.Config
import MidiFighter.Receive
import MidiFighter.LargePacket
import MidiFighter.Feedback
import MidiFighter.Display
import MidiFighter.BulkRoundTrip
import MidiFighter.Task
import MidiFighter.BankButtons
import MidiFighter.Replies
import MidiFighter.Bits
import MidiFighter.Leds
import MidiFighter.Terminator
import MidiFighter.NoteOffDelay
import MidiFighter.BankHold
import MidiFighter.ComboNotes
import MidiFighter.ComboScan
import MidiFighter.ComboRelease
import MidiFighter.Wrap
import MidiFighter.Geometry
import MidiFighter.Animations
import MidiFighter.Frame
import MidiFighter.MidiClock
import MidiFighter.Occupancy
import MidiFighter.BallDemo
import MidiFighter.BallGrid
import MidiFighter.Sleep
import MidiFighter.Layers
import MidiFighter.Render
import MidiFighter.Noninterference
import MidiFighter.Firmware
import MidiFighter.LedTimer
import MidiFighter.KeyRead
import MidiFighter.Serial
import MidiFighter.PinsToNotes
import MidiFighter.Persist
import MidiFighter.Response
import MidiFighter.Picture
import MidiFighter.Batch
import MidiFighter.Endpoints
import MidiFighter.Usb
