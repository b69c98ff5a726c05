import Ironic.Host
import Ironic.Formats
import Ironic.Conversion
import Ironic.Fetch
import Ironic.WholeDisk
import Ironic.InspectionRules
import Ironic.Watch
import Ironic.RootFs
import Ironic.RootFsContents
import Ironic.BootMedia
import Ironic.IsoContents
import Ironic.DeployIso
import Ironic.UefiRoot
import Ironic.UefiDeploy
import Ironic.IsolinuxRoot
import Ironic.VfatImage
import Ironic.BootIso
import Ironic.RulesOrder
import Ironic.Migration
