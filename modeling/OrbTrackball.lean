import OrbTrackball.Config
import OrbTrackball.Axes
import OrbTrackball.Debounce
import OrbTrackball.Report
import OrbTrackball.PollLoop
import OrbTrackball.Motion
import OrbTrackball.Descriptor
import OrbTrackball.DescriptorBytes
import OrbTrackball.HostView
import OrbTrackball.Spi
import OrbTrackball.Frames
import OrbTrackball.Bringup
